import Sketchbook.Proofs.Copying
import Sketchbook.Proofs.Enclosing
import Sketchbook.Proofs.Overloading

namespace Sketchbook

open Sketchbook.Syntax (Node Role)
open Sketchbook.Settings Sketchbook.Editing Sketchbook.Text Sketchbook.Text.Utf8

/-- A class has a body that ends with a brace, be it one that is missing in the text. -/
def Syntax.Node.Closed (cls : Node) : Prop :=
  ∃ body ∈ cls.childOf? .body, ∃ brace ∈ body.children.getLast?, brace.kind = "\x7d"

instance (cls : Node) : Decidable cls.Closed :=
  inferInstanceAs (Decidable (∃ body ∈ cls.childOf? .body, ∃ brace ∈ body.children.getLast?,
    brace.kind = "\x7d"))

namespace Sketch

/-- A class that a sketch may be: one that extends the base class. -/
def IsOwnClass (source : Bytes) (n : Node) : Prop :=
  n.isNamed = true ∧ n.kind = "class_declaration" ∧ extendsBase source n = true

/-- The sketch has a method by a name among its own members: right within the body of its class or,
if no class holds the sketch, at the top. -/
def Declares (s : Sketch) (name : String) : Prop :=
  ∃ i v, place? s.root (s.bodyPlace?.getD [] ++ [i]) = some v ∧ v.node.isNamed = true ∧
    v.node.kind = "method_declaration" ∧ s.textOf (v.node.childOf? .name) = name

variable {s : Sketch}

theorem exists_classBody_of_bodyPlace {p : List Nat} (h : s.bodyPlace? = some p) :
    ∃ i j cls body, p = [i, j] ∧ s.root.children[i]? = some cls ∧ cls.children[j]? = some body ∧
      s.classBody? = some body := by
  have hplace := h
  unfold bodyPlace? at h
  obtain ⟨i, hi, h⟩ := Option.bind_eq_some_iff.mp h
  obtain ⟨cls, hcls, h⟩ := Option.bind_eq_some_iff.mp h
  obtain ⟨j, hj, rfl⟩ := Option.map_eq_some_iff.mp h
  obtain ⟨hlt, -⟩ := List.findIdx?_eq_some_iff_getElem.mp hj
  have hbody : cls.children[j]? = some cls.children[j] := List.getElem?_eq_getElem hlt
  have hsketch : s.sketchClass? = some cls := by
    rw [sketchClass?_eq_bind, hi]
    exact hcls
  exact ⟨i, j, cls, _, rfl, hcls, hbody,
    classBody?_eq_some_iff.mpr ⟨i, j, cls, hplace, hsketch, hcls, hbody⟩⟩

theorem exists_place_members (s : Sketch) :
    ∃ v, place? s.root (s.bodyPlace?.getD []) = some v ∧ v.node = s.classBody?.getD s.root := by
  cases hp : s.bodyPlace? with
  | some p =>
    obtain ⟨i, j, cls, body, rfl, hcls, hj, hbody⟩ := exists_classBody_of_bodyPlace hp
    refine ⟨⟨body, [cls, s.root]⟩, ?_, by rw [hbody]; rfl⟩
    exact descend_cons_eq_some.mpr ⟨cls, hcls, descend_cons_eq_some.mpr ⟨body, hj, rfl⟩⟩
  | none =>
    have hnone : s.classBody? = none := by
      by_contra hsome
      obtain ⟨body, hbody⟩ := Option.ne_none_iff_exists'.mp hsome
      obtain ⟨i, j, cls, hplace, -⟩ := classBody?_eq_some_iff.mp hbody
      rw [hp] at hplace
      cases hplace
    exact ⟨⟨s.root, []⟩, rfl, by rw [hnone]; rfl⟩

theorem contains_methodNames_iff (s : Sketch) (name : String) :
    s.methodNames.contains name = true ↔ s.Declares name := by
  obtain ⟨v, hv, hnode⟩ := s.exists_place_members
  rw [List.contains_iff_mem, methodNames, ← hnode]
  constructor
  · intro h
    obtain ⟨m, hm, hname⟩ := List.mem_map.mp h
    obtain ⟨hm, hkind⟩ := List.mem_filter.mp hm
    obtain ⟨hm, hnamed⟩ := List.mem_filter.mp hm
    obtain ⟨i, hi⟩ := List.getElem?_of_mem hm
    exact ⟨i, ⟨m, v.node :: v.ancestors⟩, place?_concat.mpr ⟨v, m, hv, hi, rfl⟩, hnamed,
      of_decide_eq_true hkind, hname⟩
  · rintro ⟨i, w, hw, hnamed, hkind, hname⟩
    obtain ⟨u, m, hu, hi, rfl⟩ := place?_concat.mp hw
    obtain rfl := Option.some.inj (hv.symm.trans hu)
    refine List.mem_map.mpr ⟨m, List.mem_filter.mpr ⟨List.mem_filter.mpr ⟨?_, hnamed⟩, ?_⟩, hname⟩
    · exact List.mem_of_getElem? hi
    · exact decide_eq_true hkind

/-- The class that a sketch is, with its body and the brace at the end of that: the first class at
the top that extends the base class. It is the one whose body is looked up and placed. -/
structure OwnClass (s : Sketch) (i j : Nat) (cls body brace : Node) : Prop where
  place : s.root.children[i]? = some cls
  own : IsOwnClass s.source cls
  first : ∀ n ∈ s.root.children.take i, ¬IsOwnClass s.source n
  found : s.sketchClass? = some cls
  body_place : cls.children[j]? = some body
  body_child : cls.childOf? .body = some body
  body_found : s.classBody? = some body
  members_place : s.bodyPlace? = some [i, j]
  brace_last : body.children.getLast? = some brace
  brace_kind : brace.kind = "\x7d"

variable {i j : Nat} {cls body brace : Node} {source : Bytes}

theorem mayOwn_iff (hj : s.mode = .java) {n : Node} :
    s.mayOwn n = true ↔ IsOwnClass s.source n := by
  rw [mayOwn, hj, IsOwnClass, Bool.and_eq_true, Bool.and_eq_true, decide_eq_true_eq, and_assoc]
  rfl

/-- The way a sketch is written is told by the tree it was read into, if that is its own. -/
theorem mode_read (hw : (read source).isWrapped = false) :
    (read source).mode = detectMode source (read source).root := by
  have hhead : decide (0 < wrapperHead.length) = true := by decide
  revert hw
  unfold read
  rcases Node.parse source with ⟨root, hasError⟩
  cases hasError with
  | false => exact fun _ => rfl
  | true =>
    dsimp only
    rcases Node.parse (wrapperHead ++ blankImports source (findImports source root) ++
      wrapperTail) with ⟨root', hasError'⟩
    cases hasError' with
    | false =>
      intro hw
      have hw : decide (0 < wrapperHead.length) = false := hw
      rw [hhead] at hw
      cases hw
    | true => exact fun _ => rfl

theorem exists_sketchClass_of_java (hj : (read source).mode = .java) :
    ∃ cls, (read source).sketchClass? = some cls := by
  have hw := isWrapped_eq_false_of_java hj
  have hmode := mode_read hw
  rw [hj, detectMode] at hmode
  unfold sketchClass?
  rw [hj, ((root_read source).2.1 hw).1]
  apply Option.isSome_iff_exists.mp
  by_contra hnone
  rw [if_neg hnone] at hmode
  split_ifs at hmode

theorem exists_ownClass (hj : (read source).mode = .java)
    (hclosed : ∀ n ∈ (read source).root.children, n.kind = "class_declaration" → n.Closed) :
    ∃ i j cls body brace, (read source).OwnClass i j cls body brace := by
  obtain ⟨cls, hcls⟩ := exists_sketchClass_of_java hj
  have hindex := hcls
  rw [sketchClass?_eq_bind] at hindex
  obtain ⟨i, hi, hat⟩ := Option.bind_eq_some_iff.mp hindex
  have hfind : (read source).root.children.findIdx? (read source).mayOwn = some i := by
    rw [classIndex?, hj, if_neg (by simp)] at hi
    exact hi
  obtain ⟨hlt, hown, hfirst⟩ := List.findIdx?_eq_some_iff_getElem.mp hfind
  have hget : (read source).root.children[i] = cls := by
    rw [List.getElem?_eq_getElem hlt] at hat
    exact Option.some.inj hat
  rw [hget, mayOwn_iff hj] at hown
  obtain ⟨body, hchild, brace, hlast, hkind⟩ := hclosed cls (List.mem_of_getElem? hat) hown.2.1
  have hbody : (read source).classBody? = some body := by
    rw [classBody?, hcls]
    exact hchild
  obtain ⟨i', j, cls', hplace, hcls', -, hj'⟩ := classBody?_eq_some_iff.mp hbody
  obtain rfl := Option.some.inj (hcls.symm.trans hcls')
  -- the body is looked for in the class that was found
  have hsame : i' = i := by
    rw [bodyPlace?, hi, Option.bind_some, hat, Option.bind_some] at hplace
    obtain ⟨j', -, hpair⟩ := Option.map_eq_some_iff.mp hplace
    exact (List.cons.inj hpair).1.symm
  subst hsame
  refine ⟨i', j, cls, body, brace, hat, hown, fun n hn hclass => ?_, hcls, hj', hchild, hbody,
    hplace, hlast, hkind⟩
  obtain ⟨m, hm, rfl⟩ := List.mem_take_iff_getElem.mp hn
  exact hfirst m (by omega) ((mayOwn_iff hj).mpr hclass)

end Sketch

/-- A line of generated code: the level to which it is indented, and what it says up to its end. -/
structure Line where
  level : Nat
  text : String
  deriving DecidableEq

namespace Line

/-- Lines as text, with so many blanks in front of each for every level. -/
def spell (indent : Nat) (ls : List Line) : String :=
  String.join (ls.map fun l => String.ofList (List.replicate (indent * l.level) ' ') ++ l.text)

def ofAccessor (a : Accessor) : List Line :=
  [⟨1, "public " ++ a.returnType ++ " " ++ a.name ++ "() \x7b return " ++ a.body ++ "; \x7d\n"⟩]

def ofMain (className : String) : List Line :=
  [⟨1, "static public void main(String[] passedArgs) \x7b\n"⟩,
    ⟨2, "String[] appletArgs = new String[] \x7b \"" ++ className ++ "\" \x7d;\n"⟩,
    ⟨2, "if (passedArgs != null) \x7b\n"⟩,
    ⟨3, "PApplet.main(concat(appletArgs, passedArgs));\n"⟩,
    ⟨2, "\x7d else \x7b\n"⟩,
    ⟨3, "PApplet.main(appletArgs);\n"⟩,
    ⟨2, "\x7d\n"⟩,
    ⟨1, "\x7d\n"⟩]

variable (c : Config)

theorem spell_ofAccessor (a : Accessor) :
    spell c.indent (ofAccessor a) = a.render (Generate.pad c 1) ++ "\n" := by
  have hend : "; \x7d\n" = "; \x7d" ++ "\n" := by decide +kernel
  simp only [spell, ofAccessor, Accessor.render, Generate.pad, hend, List.map_cons, List.map_nil,
    String.join_cons, String.join_nil, String.append_empty, String.append_assoc]

theorem spell_ofMain (className : String) :
    spell c.indent (ofMain className) = Generate.mainMethod c className := by
  delta Generate.mainMethod
  simp only [spell, ofMain, Generate.pad, List.map_cons, List.map_nil, String.join_cons,
    String.join_nil, String.append_empty, String.append_assoc]

theorem ofAccessor_ne_ofMain (a : Accessor) (className : String) :
    ofAccessor a ≠ ofMain className := by
  intro h
  have hlength : (1 : Nat) = 8 := congrArg List.length h
  cases hlength

end Line

/-- What is added to the class of a sketch: the methods for its settings and behind them, once and
unless the sketch has one of its own, the method that starts it. Each stands below an empty line. -/
structure Added (c : Config) (s : Sketch) (accessors : List Accessor) (className text : String)
    (methods : List (List Line)) : Prop where
  spelled : text = String.join (methods.map fun m => "\n" ++ Line.spell c.indent m)
  own : s.Declares "main" → methods = accessors.map Line.ofAccessor ∧
    methods.count (Line.ofMain className) = 0
  generated : ¬s.Declares "main" →
    methods = accessors.map Line.ofAccessor ++ [Line.ofMain className] ∧
      methods.count (Line.ofMain className) = 1

theorem renderAll_eq_join (c : Config) (accessors : List Accessor) :
    Accessor.renderAll (Generate.pad c 1) accessors =
      String.join ((accessors.map Line.ofAccessor).map fun m => "\n" ++ Line.spell c.indent m) := by
  rw [Accessor.renderAll, List.map_map]
  refine congrArg String.join (List.map_congr_left fun a _ => ?_)
  rw [Function.comp_apply, Line.spell_ofAccessor, String.append_assoc]

theorem exists_added (c : Config) (s : Sketch) (accessors : List Accessor) (className : String) :
    ∃ methods, Added c s accessors className
      (Generate.members c accessors (s.methodNames.contains "main") className) methods := by
  have hiff := s.contains_methodNames_iff "main"
  have hnone : (accessors.map Line.ofAccessor).count (Line.ofMain className) = 0 := by
    rw [List.count_eq_zero]
    intro h
    obtain ⟨a, -, ha⟩ := List.mem_map.mp h
    exact Line.ofAccessor_ne_ofMain a className ha
  cases hmain : s.methodNames.contains "main" with
  | true =>
    have hown := hiff.mp hmain
    refine ⟨accessors.map Line.ofAccessor, ?_, fun _ => ⟨rfl, hnone⟩, fun h => absurd hown h⟩
    rw [Generate.members, if_pos rfl, String.append_empty, renderAll_eq_join]
  | false =>
    have hown : ¬s.Declares "main" := fun h => by
      rw [hiff.mpr h] at hmain
      cases hmain
    refine ⟨accessors.map Line.ofAccessor ++ [Line.ofMain className], ?_,
      fun h => absurd h hown, fun _ => ⟨rfl, ?_⟩⟩
    · rw [Generate.members, if_neg Bool.false_ne_true, renderAll_eq_join, List.map_append,
        String.join_append, List.map_singleton, String.join_cons, String.join_nil,
        String.append_empty, Line.spell_ofMain]
    · rw [List.count_append, hnone, List.count_singleton_self]

section Inserting

namespace Editing.Edit

theorem textsAt_append_of_ne {A M : List Edit} {p : Nat} (h : ∀ e ∈ M, e.position ≠ p) :
    textsAt (A ++ M) p = textsAt A p := by
  have hnone (side : Side) : M.filter (isAt p side) = [] :=
    List.filter_eq_nil_iff.mpr fun e he ha => h e he (isAt_iff.mp ha).1
  rw [textsAt, List.filter_append, List.filter_append, hnone, hnone, List.append_nil,
    List.append_nil, textsAt]

theorem textsAt_append_before {A M : List Edit} {p : Nat} (hA : ∀ e ∈ A, ¬e.isAt p .before = true)
    (hM : ∀ e ∈ M, e.isAt p .before = true) :
    textsAt (A ++ M) p = textsAt A p ++ M.flatMap fun e => encode e.text := by
  have hafter : M.filter (isAt p .after) = [] := by
    refine List.filter_eq_nil_iff.mpr fun e he ha => ?_
    cases (isAt_iff.mp ha).2.symm.trans (isAt_iff.mp (hM e he)).2
  have hbefore : A.filter (isAt p .before) = [] := List.filter_eq_nil_iff.mpr hA
  rw [textsAt, List.filter_append, List.filter_append, hafter, hbefore, List.append_nil,
    List.nil_append, List.filter_eq_self.mpr hM, List.flatMap_append, textsAt, hbefore,
    List.append_nil]

theorem copy_of_le {es : List Edit} {p : Nat} (rest : Bytes) (h : ∀ e ∈ es, e.position ≤ p) :
    copy es p rest ++ textsAt es (p + rest.length) = textsAt es p ++ rest := by
  cases rest with
  | nil => rw [copy, List.nil_append, List.length_nil, Nat.add_zero, List.append_nil]
  | cons b rest =>
    have hnone (q : Nat) (hq : p < q) : textsAt es q = [] :=
      textsAt_eq_nil fun e he hpos => by
        have := h e he
        omega
    have hend : textsAt es (p + (b :: rest).length) = [] :=
      hnone _ (Nat.lt_add_of_pos_right (Nat.succ_pos _))
    rw [copy, copy_eq_self fun q hq _ => hnone q hq, hend, List.append_nil]

end Editing.Edit

/-- An edit around a stretch is made at the end of the text at the latest, and there it closes the
stretch. -/
theorem Wrap.Lined.edit_le {ws : List Wrap} {p k : Nat} (h : Lined p k ws) {e : Edit}
    (he : e ∈ ws.flatMap edits) : e.position ≤ k ∧ ¬e.isAt k .before = true := by
  obtain ⟨w, hw, he⟩ := List.mem_flatMap.mp he
  have hsolid := h.solid w hw
  have hhigh := h.high w hw
  rw [edits, List.mem_pair] at he
  rcases he with rfl | rfl
  · -- a stretch spans a byte at least, so none begins at the end
    refine ⟨Int.le_trans (Int.le_of_lt hsolid) hhigh, fun hat => ?_⟩
    have hpos : w.start = k := (Edit.isAt_iff.mp hat).1
    omega
  · refine ⟨hhigh, fun hat => ?_⟩
    cases (Edit.isAt_iff.mp hat).2

/-- A text with edits around stretches in its front and with texts that go with what follows the
front: the stretches are replaced, and the texts stand behind all that closes a stretch. -/
theorem Wrap.merge_edits {ws : List Wrap} {A M : List Edit} {source : Bytes} {k : Nat}
    (hA : A.Perm (ws.flatMap edits)) (h : Lined 0 k ws) (hk : k ≤ source.length)
    (hM : ∀ e ∈ M, e.isAt k .before = true) :
    Edit.merge (A ++ M) source = replace (enclosed (source.take k)) (source.take k) 0 ws ++
      (M.flatMap fun e => encode e.text) ++ source.drop k := by
  have hlength : (source.take k).length = k := by rw [List.length_take, Nat.min_eq_left hk]
  have hlined : Lined 0 (source.take k).length ws := by rwa [hlength]
  have hA' (e : Edit) (he : e ∈ A) : e.position ≤ k ∧ ¬e.isAt k .before = true :=
    h.edit_le (hA.mem_iff.mp he)
  have hM' (e : Edit) (he : e ∈ M) : e.position = k := (Edit.isAt_iff.mp (hM e he)).1
  -- in front of the place only the edits around stretches are made
  have hcopy : Edit.copy (A ++ M) 0 (source.take k) = Edit.copy A 0 (source.take k) := by
    refine Edit.copy_congr fun q _ hq => Edit.textsAt_append_of_ne fun e he hpos => ?_
    have := hM' e he
    omega
  -- and behind it nothing is
  have hfar : ∀ e ∈ A ++ M, e.position ≤ k := fun e he =>
    (List.mem_append.mp he).elim (fun he => (hA' e he).1) fun he => Int.le_of_eq (hM' e he)
  have hback := Edit.copy_of_le (source.drop k) hfar
  have hend : k + (source.drop k).length = source.length := by rw [List.length_drop]; omega
  rw [hend, Edit.textsAt_append_before (fun e he => (hA' e he).2) hM] at hback
  have hsplit : Edit.copy (A ++ M) 0 source =
      Edit.copy (A ++ M) 0 (source.take k) ++ Edit.copy (A ++ M) k (source.drop k) := by
    conv_lhs => rw [← List.take_append_drop k source]
    rw [Edit.copy_append, hlength, Nat.zero_add]
  rw [← merge_eq_replace hlined hA, Edit.merge, Edit.merge, hsplit, hcopy, hlength,
    List.append_assoc, hback]
  simp only [List.append_assoc]

theorem Editing.Edit.exists_merge_eq_of_clear {es : List Edit} {source : Bytes} {start stop : Nat}
    (hstop : stop ≤ source.length) (h : ∀ e ∈ es, e.position ≤ start ∨ stop ≤ e.position) :
    ∃ front back, merge es source = front ++ slice source start stop ++ back := by
  by_cases hlt : start < stop
  · have hclear (q : Nat) (hlow : start < q) (hhigh : q < stop) : textsAt es q = [] :=
      textsAt_eq_nil fun e he hpos => by
        have := h e he
        omega
    obtain ⟨front, rest, heq⟩ := exists_merge_eq hlt hstop hclear
    exact ⟨_, _, heq⟩
  · refine ⟨[], merge es source, ?_⟩
    rw [slice, show stop - start = 0 by omega, List.take_zero]
    rfl

end Inserting

section Places

variable {s : Sketch} {entryMethod : String} {d : Call} {i j : Nat} {cls body brace : Node}
  {path : List Nat} {u : Visited}

/-- In a class of the sketch's own, the calls in the right place are statements of methods right
within its body. -/
theorem exists_statement_of_java (horder : InOrder s.root) (hj : s.mode = .java)
    (hplace : s.bodyPlace? = some [i, j]) (hd : d ∈ callsOf s entryMethod)
    (hscope : d.scope ≠ .invalid) :
    ∃ m method path v, EntryNamed s entryMethod [i, j, m] method ∧ StatementOf s [i, j, m] path ∧
      place? s.root path = some v ∧ v.node.kind = "method_invocation" ∧
      v.node.start < v.node.stop ∧ d.site.start = s.ownOffset v.node.start ∧
      d.site.stop = s.ownOffset v.node.stop := by
  obtain ⟨path, v, hv, -, hk, hclass, hstart, hstop⟩ := exists_place_of_mem hd hscope
  have hn := start_lt_stop_of_settingOf? (horder.inside v.node (mem_subtrees_of_place hv)) hk
  have hentry : InEntryMethod s entryMethod path v.ancestors := by
    by_contra he
    refine hclass ((invalid_iff horder.laidOut hv hn).mpr ⟨fun hi => ?_, he⟩)
    cases hj.symm.trans hi.1
  obtain ⟨-, at_, method, hnamed, hstatement⟩ := (inEntryMethod_iff hv).mp hentry
  have hthree : ∃ m, at_ = [i, j, m] := by
    rcases hnamed.member with ⟨hactive, -⟩ | ⟨body, cls, habove, -, -, htake, -⟩
    · cases hj.symm.trans hactive
    · have hlength := place?_length hnamed.place
      rw [habove] at hlength
      obtain ⟨x, y, m, rfl⟩ := List.length_eq_three.mp hlength.symm
      obtain ⟨rfl, rfl⟩ : i = x ∧ j = y := by simpa using hplace.symm.trans htake
      exact ⟨m, rfl⟩
  obtain ⟨m, rfl⟩ := hthree
  exact ⟨m, method, path, v, hnamed, hstatement, hv, kind_of_settingOf? hk, hn, hstart, hstop⟩

theorem not_prefix_of_statement {m : Nat} {method v : Visited}
    (hmethod : EntryNamed s entryMethod [i, j, m] method)
    (hstatement : StatementOf s [i, j, m] path)
    (hv : place? s.root path = some v) (hkind : v.node.kind = "method_invocation")
    {q : List Nat} (hu : place? s.root q = some u) (hclass : u.node.kind = "class_declaration")
    (hq : ¬q <+: [i, j]) : ¬q <+: path := by
  obtain ⟨a, b, c, block, statement, rfl, hblock, hbkind, hst, hstkind⟩ := hstatement
  have hother {p : List Nat} {w : Visited} (hw : place? s.root p = some w) {kind : String}
      (hwkind : w.node.kind = kind) (hne : kind ≠ "class_declaration") : q ≠ p := by
    rintro rfl
    obtain rfl := Option.some.inj (hw.symm.trans hu)
    exact hne (hwkind.symm.trans hclass)
  -- below the body the way leads to a method, its block, a statement and the call, and to no class
  rw [List.prefix_concat_iff, List.prefix_concat_iff, List.prefix_concat_iff,
    show [i, j, m] = [i, j] ++ [m] from rfl, List.prefix_concat_iff]
  rintro (h | h | h | h | h)
  · exact hother hv hkind (by decide) h
  · exact hother hst hstkind (by decide) h
  · exact hother hblock hbkind (by decide) h
  · exact hother hmethod.place hmethod.kind (by decide) h
  · exact hq h

/-- A class that is not around the members of the sketch does not hold the ends of a call that may
be taken out. -/
theorem clear_of_call (horder : InOrder s.root) (hj : s.mode = .java) (hoffset : s.offset = 0)
    (hplace : s.bodyPlace? = some [i, j]) (hd : d ∈ callsOf s entryMethod)
    (hscope : d.scope ≠ .invalid) (hu : place? s.root path = some u)
    (hclass : u.node.kind = "class_declaration") (hpath : ¬path <+: [i, j]) :
    ∀ p ∈ [d.site.start, d.site.stop], p ≤ u.node.start ∨ u.node.stop ≤ p := by
  obtain ⟨m, method, at_, v, hmethod, hstatement, hv, hkind, hn, hstart, hstop⟩ :=
    exists_statement_of_java horder hj hplace hd hscope
  have hnot := not_prefix_of_statement hmethod hstatement hv hkind hu hclass hpath
  have hends : (v.node.start ≤ u.node.start ∧ u.node.stop ≤ v.node.stop) ∨
      Settings.Apart u.node v.node := by
    rcases LaidOut.prefix_or_apart (v := ⟨s.root, []⟩) horder.laidOut hu hv with h | h | h
    · exact absurd h hnot
    · exact .inl (horder.laidOut.within_of_prefix h hv hu)
    · exact .inr h
  unfold Settings.Apart at hends
  intro p hp
  rw [List.mem_pair, hstart, hstop, Sketch.ownOffset, Sketch.ownOffset, hoffset] at hp
  omega

theorem clear_of_brace (horder : InOrder s.root) (h : s.OwnClass i j cls body brace)
    (hle : brace.start ≤ brace.stop) (hu : place? s.root path = some u) (hpath : ¬path <+: [i, j]) :
    brace.start ≤ u.node.start ∨ u.node.stop ≤ brace.start := by
  obtain ⟨l, hl⟩ := List.getElem?_of_mem (List.mem_of_getLast? h.brace_last)
  have hbrace : place? s.root ([i, j] ++ [l]) = some ⟨brace, [body, cls, s.root]⟩ :=
    place?_concat.mpr ⟨⟨body, [cls, s.root]⟩, brace, descend_cons_eq_some.mpr ⟨cls, h.place,
      descend_cons_eq_some.mpr ⟨body, h.body_place, rfl⟩⟩, hl, rfl⟩
  rcases LaidOut.prefix_or_apart (v := ⟨s.root, []⟩) horder.laidOut hu hbrace with hq | hq | hq
  · rcases List.prefix_concat_iff.mp hq with rfl | hq
    · obtain rfl := Option.some.inj (hbrace.symm.trans hu)
      exact .inl (Nat.le_refl _)
    · exact absurd hq hpath
  · exact .inl (horder.laidOut.within_of_prefix hq hbrace hu).1
  · rcases hq with hq | hq
    · exact .inr hq
    · exact .inl (Nat.le_trans hle hq)

theorem closingBrace?_eq (h : s.OwnClass i j cls body brace) :
    Generate.closingBrace? body = some brace := by
  rw [Generate.closingBrace?, h.brace_last, Option.filter_some, h.brace_kind]
  rfl

theorem within_of_call (horder : InOrder s.root) (hj : s.mode = .java) (hoffset : s.offset = 0)
    (h : s.OwnClass i j cls body brace) (hd : d ∈ callsOf s entryMethod)
    (hscope : d.scope ≠ .invalid) : body.start ≤ d.site.start ∧ d.site.stop ≤ brace.start := by
  obtain ⟨m, method, at_, v, -, ⟨a, b, c, _, _, rfl, -⟩, hv, -, -, hstart, -⟩ :=
    exists_statement_of_java horder hj h.members_place hd hscope
  have hbody : place? s.root [i, j] = some ⟨body, [cls, s.root]⟩ :=
    descend_cons_eq_some.mpr ⟨cls, h.place, descend_cons_eq_some.mpr ⟨body, h.body_place, rfl⟩⟩
  have hin := (horder.laidOut.within_of_prefix ⟨[m, a, b, c], rfl⟩ hbody hv).1
  have hstop := stop_le_closingBrace horder hj hd hscope h.body_found (closingBrace?_eq h)
  unfold Sketch.ownOffset at hstart hstop
  dsimp only at hin
  omega

end Places

/-- The name of the class of a sketch, as far as the class has one. -/
def Sketch.className (s : Sketch) (cls : Node) (name : String) : String :=
  match cls.childOf? .name with
  | some n => n.text s.source
  | none => name

section Completing

variable {c : Config} {name package : String} {s : Sketch} {g : Generated} {i j : Nat}
  {cls body brace : Node}

theorem memberEdits_isAt (c : Config) (name : String) (h : s.OwnClass i j cls body brace)
    (hoffset : s.offset = 0) (accessors : List Accessor) (hasMain : Bool) :
    (∀ e ∈ Generate.memberEdits c name s accessors hasMain, e.isAt brace.start .before = true) ∧
      (Generate.memberEdits c name s accessors hasMain).flatMap (fun e => encode e.text) =
        encode (Generate.members c accessors hasMain (s.className cls name)) := by
  have hedits : Generate.memberEdits c name s accessors hasMain =
      if Generate.members c accessors hasMain (s.className cls name) = "" then []
      else [Edit.insertBefore (s.ownOffset brace.start)
        (Generate.members c accessors hasMain (s.className cls name))] := by
    unfold Generate.memberEdits
    simp only [h.found, h.body_found, closingBrace?_eq h]
    rfl
  rw [hedits]
  split_ifs with hempty
  · rw [hempty]
    exact ⟨nofun, rfl⟩
  · refine ⟨fun e he => ?_, List.flatMap_singleton _ _⟩
    rw [List.mem_singleton.mp he, Edit.isAt_iff, Sketch.ownOffset, hoffset]
    exact ⟨by simp [Edit.insertBefore], rfl⟩

theorem exists_lined_of_java (horder : InOrder s.root) (hj : s.mode = .java)
    (hoffset : s.offset = 0) (h : s.OwnClass i j cls body brace) (entryMethod : String) :
    ∃ ws : List Wrap, ws.Perm (wraps s entryMethod) ∧ Wrap.Lined 0 brace.start ws ∧
      ∀ w ∈ ws, (body.start : Int) ≤ w.start ∧ w.stop ≤ brace.start := by
  have hwraps : wraps s entryMethod =
      (liftedSites (callsOf s entryMethod)).map Wrap.ofSite := by
    rw [wraps, if_pos hj, List.append_nil]
  -- in a class of its own no import is moved, so all stretches are calls
  have hwithin : ∀ w ∈ wraps s entryMethod,
      w.start < w.stop ∧ (body.start : Int) ≤ w.start ∧ w.stop ≤ brace.start := by
    intro w hw
    rw [hwraps] at hw
    obtain ⟨x, hx, rfl⟩ := List.mem_map.mp hw
    obtain ⟨d, hd, rfl, hscope⟩ := mem_liftedSites hx
    exact ⟨start_lt_stop_of_mem_liftedSites horder hx,
      within_of_call horder hj hoffset h hd hscope⟩
  have hapart : (wraps s entryMethod).Pairwise Wrap.Apart := by
    rw [hwraps]
    exact List.pairwise_map.mpr (pairwise_liftedSites horder.laidOut entryMethod)
  obtain ⟨ws, hperm, hordered⟩ := Wrap.exists_ordered hapart fun w hw => (hwithin w hw).1
  have hmem : ∀ w ∈ ws, w ∈ wraps s entryMethod := fun w hw => hperm.mem_iff.mp hw
  have hlined : Wrap.Lined 0 brace.start ws :=
    { solid := fun w hw => (hwithin w (hmem w hw)).1
      low := fun w hw => Int.le_trans (Int.natCast_nonneg _) (hwithin w (hmem w hw)).2.1
      high := fun w hw => (hwithin w (hmem w hw)).2.2
      ordered := hordered }
  exact ⟨ws, hperm, hlined, fun w hw => (hwithin w (hmem w hw)).2⟩

theorem clear_of_mem_edits (horder : InOrder s.root) (hj : s.mode = .java) (hoffset : s.offset = 0)
    (h : s.OwnClass i j cls body brace) (hle : brace.start ≤ brace.stop) {entryMethod : String}
    {accessors : List Accessor} {hasMain : Bool} {path : List Nat} {u : Visited}
    (hu : place? s.root path = some u) (hclass : u.node.kind = "class_declaration")
    (hpath : ¬path <+: [i, j]) :
    ∀ e ∈ (wraps s entryMethod).flatMap Wrap.edits ++
        Generate.memberEdits c name s accessors hasMain,
      e.position ≤ u.node.start ∨ u.node.stop ≤ e.position := by
  intro e he
  rcases List.mem_append.mp he with he | he
  · obtain ⟨w, hw, he⟩ := List.mem_flatMap.mp he
    rw [wraps, if_pos hj, List.append_nil] at hw
    obtain ⟨x, hx, rfl⟩ := List.mem_map.mp hw
    obtain ⟨d, hd, rfl, hscope⟩ := mem_liftedSites hx
    have hclear := clear_of_call horder hj hoffset h.members_place hd hscope hu hclass hpath
    rw [Wrap.edits, List.mem_pair] at he
    rcases he with rfl | rfl
    · exact hclear _ List.mem_cons_self
    · exact hclear _ (List.mem_cons_of_mem _ List.mem_cons_self)
  · have hclear := clear_of_brace horder h hle hu hpath
    have hpos := (Edit.isAt_iff.mp ((memberEdits_isAt c name h hoffset accessors hasMain).1 e he)).1
    omega

end Completing

/-- How a sketch becomes a class file: the lines and the sketch. In a sketch that is a class of its
own, calls are taken out and members are added in front of the brace of this class; behind it, and in
every class that does not hold the members, the sketch is as it was. Of other sketches, the file has
what is added behind the sketch and in front of the last brace. -/
theorem own_class_completed (t name : String) (package? : Option String) (c : Config)
    (hname : ClassName.isValid name = true)
    (hclosed : ∀ n ∈ (Sketch.read (encode t)).root.children, n.kind = "class_declaration" →
      n.Closed) :
    let source := encode t
    let s := Sketch.read source
    let lines := Generate.header c name (Generate.packageOf package? c) s
    (s.mode = .java → ∃ (i j : Nat) (cls body brace : Node), s.OwnClass i j cls body brace ∧
      (Makeable source c → ∃ g, generate source name package? c = .ok g) ∧
      ∀ g, generate source name package? c = .ok g → ∃ (text added : String)
          (methods : List (List Line)) (ws : List Wrap),
        g.code = "\n".intercalate lines ++ "\n" ++ text ∧
        Added c s g.accessors (s.className cls name) added methods ∧
        ws.Perm ((liftedSites (callsOf s c.entryMethod)).map Wrap.ofSite) ∧
        ws.Pairwise (fun v w => v.stop ≤ w.start) ∧
        (∀ w ∈ ws, (body.start : Int) ≤ w.start ∧ w.stop ≤ brace.start) ∧
        encode text = Wrap.replace (Wrap.enclosed (source.take brace.start))
          (source.take brace.start) 0 ws ++ encode added ++ source.drop brace.start ∧
        ∀ path u, place? s.root path = some u → u.node.kind = "class_declaration" →
          ¬path <+: [i, j] → ∃ front back,
            encode text = front ++ Edit.slice source u.node.start u.node.stop ++ back) ∧
    (s.mode ≠ .java → (s.CallsInside source → Makeable source c →
        ∃ g, generate source name package? c = .ok g) ∧
      ∀ g, generate source name package? c = .ok g → ∃ text added methods,
        render source ((wraps s c.entryMethod).flatMap Wrap.edits) = .ok text ∧
        Added c s g.accessors name added methods ∧
        g.code = "\n".intercalate lines ++ "\n" ++ text ++ ("\n" ++
          (if s.mode = .static then
            Generate.pad c 2 ++ "noLoop();\n" ++ Generate.pad c 1 ++ "\x7d\n" else "") ++
          added ++ "\x7d\n")) := by
  intro source s lines
  refine ⟨fun hj => ?_, fun hj => ⟨fun hcalls hmakeable => ?_, fun g hg => ?_⟩⟩
  · have hw : s.isWrapped = false := Sketch.isWrapped_eq_false_of_java hj
    obtain ⟨hroot, hplain, -⟩ := Sketch.root_read (encode t)
    obtain ⟨hsource, hoffset⟩ := hplain hw
    have hplaced := Sketch.wellPlaced_read t
    have horder : InOrder s.root := hplaced.inOrder
    obtain ⟨i, j, cls, body, brace, h⟩ := Sketch.exists_ownClass hj hclosed
    refine ⟨i, j, cls, body, brace, h, fun hmakeable => ?_, fun g hg => ?_⟩
    · obtain ⟨g, hg, -⟩ :=
        hmakeable.exists_generate package? hname (Sketch.callsInside_of_plain hw _)
      exact ⟨g, hg⟩
    obtain ⟨-, -, log, hrun⟩ := generate_eq_ok hg
    obtain ⟨found, text, -, hrender, -, hcode, -⟩ := assemble_eq_ok hrun
    obtain ⟨hmerge, -⟩ := encode_render hrender
    obtain ⟨ws, hperm, hlined, hwithin⟩ :=
      exists_lined_of_java horder hj hoffset h c.entryMethod
    obtain ⟨hat, hadded⟩ := memberEdits_isAt c name h hoffset g.accessors
      (s.methodNames.contains "main")
    obtain ⟨methods, hmethods⟩ := exists_added c s g.accessors (s.className cls name)
    have hnode : brace ∈ subtrees s.root :=
      subtrees_subset (List.mem_of_getElem? h.place) (subtrees_subset
        (List.mem_of_getElem? h.body_place) (subtrees_subset
          (List.mem_of_getLast? h.brace_last) (self_mem_subtrees brace)))
    have hbound {n : Node} (hn : n ∈ subtrees s.root) :
        n.start ≤ source.length ∧ n.stop ≤ source.length ∧ n.start ≤ n.stop := by
      have hends := hplaced.places n hn
      rw [hsource] at hends
      have hn : n ∈ subtrees (Sketch.read source).root := hn
      rw [hroot] at hn
      exact ⟨hends.1.1, hends.2.1, (Node.counted_parse _ n hn).2⟩
    -- calls in front of the brace, and members right there
    rw [edits_eq hrun, if_pos hj] at hmerge
    refine ⟨text, _, methods, ws, ?_, hmethods, ?_, hlined.ordered, hwithin, ?_,
      fun path u hu hclass hpath => ?_⟩
    · rw [hcode, Generate.closing, if_pos hj, String.append_empty]
    · rwa [wraps, if_pos hj, List.append_nil] at hperm
    · rw [hmerge, Wrap.merge_edits (hperm.flatMap_right _).symm hlined (hbound hnode).1 hat, hadded]
    · rw [hmerge]
      exact Edit.exists_merge_eq_of_clear (hbound (mem_subtrees_of_place hu)).2.1
        (clear_of_mem_edits horder hj hoffset h (hbound hnode).2.2 hu hclass hpath)
  · obtain ⟨g, hg, -⟩ := hmakeable.exists_generate package? hname hcalls
    exact ⟨g, hg⟩
  · obtain ⟨-, -, log, hrun⟩ := generate_eq_ok hg
    obtain ⟨found, text, -, hrender, -, hcode, -⟩ := assemble_eq_ok hrun
    obtain ⟨methods, hmethods⟩ := exists_added c s g.accessors name
    rw [edits_eq hrun, if_neg hj, List.append_nil] at hrender
    refine ⟨text, _, methods, hrender, hmethods, ?_⟩
    rw [hcode, Generate.closing, if_neg hj, Generate.footer]

/-- A helper class with a method by the name of the one that starts a sketch, and a sketch class. -/
def helperMain : String :=
  "class H\x7bvoid main()\x7b\x7d\x7dclass A extends PApplet\x7bvoid setup()\x7bsize(1,2);\x7d\x7d"

/-- The method of the helper does not count, and the helper stays as it is. -/
theorem own_class_completed_helper_main :
    let s := Sketch.read (encode helperMain)
    ClassName.isValid "Demo" = true ∧
      (∀ n ∈ s.root.children, n.kind = "class_declaration" → n.Closed) ∧ s.mode = .java ∧
      ∃ j cls body brace g text added methods, s.OwnClass 1 j cls body brace ∧
        generate (encode helperMain) "Demo" none {} = .ok g ∧
        g.code = "\n".intercalate (Generate.header {} "Demo" "processing.test" s) ++ "\n" ++ text ∧
        added = String.join (methods.map fun m => "\n" ++ Line.spell 2 m) ++ ("\n" ++
          "  static public void main(String[] passedArgs) \x7b\n" ++
          "    String[] appletArgs = new String[] \x7b \"A\" \x7d;\n" ++
          "    if (passedArgs != null) \x7b\n" ++
          "      PApplet.main(concat(appletArgs, passedArgs));\n" ++
          "    \x7d else \x7b\n" ++
          "      PApplet.main(appletArgs);\n" ++
          "    \x7d\n" ++
          "  \x7d\n") ∧
        methods = g.accessors.map Line.ofAccessor ∧
        encode text = encode ("class H\x7bvoid main()\x7b\x7d\x7dclass A extends PApplet\x7b" ++
          "void setup()\x7b/* commented out by preprocessor: size(1,2) */ print(\"\");\x7d") ++
            encode added ++ encode "\x7d" ∧
        ∃ before after,
          encode text = before ++ encode "class H\x7bvoid main()\x7b\x7d\x7d" ++ after := by
  intro s
  have hname : ClassName.isValid "Demo" = true := by decide
  have hrun : (∀ n ∈ s.root.children, n.kind = "class_declaration" → n.Closed) ∧ s.mode = .java ∧
      Sketch.stumbles s.source s.root = false ∧
      s.bodyPlace? = some [1, 3] ∧ s.methodNames.contains "main" = false ∧
      s.sketchClass?.map (s.className · "Demo") = some "A" ∧
      (∃ u ∈ place? s.root [0], u.node.kind = "class_declaration" ∧
        Edit.slice (encode helperMain) u.node.start u.node.stop =
          encode "class H\x7bvoid main()\x7b\x7d\x7d") ∧
      liftedSites (callsOf s "setup") = [⟨.size, ["1", "2"], 59, 68, 1⟩] ∧
      ∃ body ∈ s.classBody?, ∃ brace ∈ body.children.getLast?, brace.start = 70 := by
    decide +kernel
  obtain ⟨hclosed, hmode, hstumbles, hplace, hmain, hclass, ⟨u, hu, hkind, hslice⟩, hsites, body',
    hbody, brace', hbrace, hstart⟩ := hrun
  obtain ⟨i, j, cls, body, brace, h, hexists, hall⟩ :=
    (own_class_completed helperMain "Demo" none {} hname hclosed).1 hmode
  obtain ⟨g, hg⟩ := hexists (makeable_usual hstumbles)
  obtain ⟨text, added, methods, ws, hcode, hadded, hperm, -, -, htext, hothers⟩ := hall g hg
  have hij : [i, j] = [1, 3] := Option.some.inj (h.members_place.symm.trans hplace)
  -- the class of the sketch is the second one
  obtain ⟨rfl, rfl⟩ : i = 1 ∧ j = 3 := by simpa using hij
  obtain rfl := Option.some.inj (h.body_found.symm.trans hbody)
  obtain rfl := Option.some.inj (h.brace_last.symm.trans hbrace)
  -- one call is taken out, and the brace is the last byte
  have hws : ws = [⟨59, 68, Edit.commentOpen, Edit.commentClose⟩] := by
    change ws.Perm ((liftedSites (callsOf s "setup")).map Wrap.ofSite) at hperm
    rw [hsites] at hperm
    exact List.perm_singleton.mp hperm
  have hfront : Wrap.replace (Wrap.enclosed ((encode helperMain).take 70))
      ((encode helperMain).take 70) 0 [⟨59, 68, Edit.commentOpen, Edit.commentClose⟩] =
        encode ("class H\x7bvoid main()\x7b\x7d\x7dclass A extends PApplet\x7b" ++
          "void setup()\x7b/* commented out by preprocessor: size(1,2) */ print(\"\");\x7d") := by
    decide +kernel
  have hdrop : (encode helperMain).drop 70 = encode "\x7d" := by
    decide +kernel
  rw [hstart, hws, hfront, hdrop] at htext
  obtain ⟨before, after, hhelper⟩ := hothers [0] u hu hkind (by decide)
  rw [hslice] at hhelper
  have hnone : ¬s.Declares "main" := by
    rw [← Sketch.contains_methodNames_iff, hmain]
    exact Bool.false_ne_true
  obtain ⟨hmethods, -⟩ := hadded.generated hnone
  have hletter : s.className cls "Demo" = "A" := by
    rw [h.found] at hclass
    exact Option.some.inj hclass
  refine ⟨hname, hclosed, hmode, 3, cls, body, brace, g, text, added, _, h, hg, hcode, ?_, rfl,
    htext, before, after, hhelper⟩
  rw [hadded.spelled, hmethods, List.map_append, String.join_append, List.map_singleton,
    String.join_cons, String.join_nil, String.append_empty, hletter]
  have hmainText : "\n" ++ Line.spell 2 (Line.ofMain "A") = "\n" ++
      "  static public void main(String[] passedArgs) \x7b\n" ++
      "    String[] appletArgs = new String[] \x7b \"A\" \x7d;\n" ++
      "    if (passedArgs != null) \x7b\n" ++
      "      PApplet.main(concat(appletArgs, passedArgs));\n" ++
      "    \x7d else \x7b\n" ++
      "      PApplet.main(appletArgs);\n" ++
      "    \x7d\n" ++
      "  \x7d\n" := by
    decide +kernel
  rw [← hmainText]

end Sketchbook
