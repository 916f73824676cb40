import Sketchbook.Proofs.Totality

/-!
Which class a sketch ends up in. A sketch that is read inside a class made up for it is put between
a head with an opening brace and a tail with a closing one, and what is added to it comes behind it.
Main statement: the class is closed by the brace of the tail exactly if the braces of the sketch
never close more than they open. Else the sketch closes the class itself, and what is added belongs
to what it opens afterwards.
-/
namespace Sketchbook

open Sketchbook.Syntax (Node)
open Sketchbook.Settings Sketchbook.Editing Sketchbook.Text Sketchbook.Text.Utf8

namespace Syntax.Node

/-- Whether a node is an opening brace, be it the one of an expression within a string. -/
def opensBrace (n : Node) : Bool := n.kind = "\x7b" || n.kind = "\\\x7b"

def closesBrace (n : Node) : Bool := n.kind = "\x7d"

def isBrace (n : Node) : Bool := n.opensBrace || n.closesBrace

def braces (n : Node) : List Node := (subtrees n).filter isBrace

/-- A node that has braces spans from an opening one to a closing one, and has none between them. -/
def Paired (n : Node) : Prop :=
  (∀ c ∈ n.children, c.isBrace = false) ∨
    ∃ o ∈ n.children.head?, ∃ c ∈ n.children.getLast?, o.opensBrace = true ∧
      c.closesBrace = true ∧ n.start = o.start ∧ n.stop = c.stop ∧
      ∀ m ∈ n.children.tail.dropLast, m.isBrace = false

instance (n : Node) : Decidable n.Paired := inferInstanceAs (Decidable (_ ∨ _))

/-- Braces are tokens, and they come in pairs. -/
structure WellBraced (n : Node) : Prop where
  leaf : ∀ m ∈ subtrees n, m.isBrace = true → m.children.isEmpty = true
  paired : ∀ m ∈ subtrees n, m.Paired

instance (n : Node) : Decidable n.WellBraced :=
  decidable_of_iff
    ((∀ m ∈ subtrees n, m.isBrace = true → m.children.isEmpty = true) ∧
      ∀ m ∈ subtrees n, m.Paired)
    ⟨fun ⟨hleaf, hpaired⟩ => ⟨hleaf, hpaired⟩, fun h => ⟨h.leaf, h.paired⟩⟩

end Syntax.Node

/-- What the grammar says of the braces of a sketch that was read inside a class: braces are tokens
in pairs, they are written as they are named, and the body of the class begins with the brace of the
head. -/
structure Bracketed (s : Sketch) : Prop where
  braced : s.root.WellBraced
  spelled : ∀ n ∈ s.root.braces, Edit.slice s.source n.start n.stop = encode n.kind
  opened : ∃ body ∈ s.classBody?, body.start + 2 = s.offset ∧ ∃ c ∈ body.children, c.isBrace = true

instance (s : Sketch) : Decidable (Bracketed s) :=
  decidable_of_iff
    (s.root.WellBraced ∧
      (∀ n ∈ s.root.braces, Edit.slice s.source n.start n.stop = encode n.kind) ∧
      ∃ body ∈ s.classBody?, body.start + 2 = s.offset ∧ ∃ c ∈ body.children, c.isBrace = true)
    ⟨fun ⟨hbraced, hspelled, hopened⟩ => ⟨hbraced, hspelled, hopened⟩,
      fun h => ⟨h.braced, h.spelled, h.opened⟩⟩

namespace Settings

theorem exists_subtrees_eq_append {n m : Node} (hm : m ∈ subtrees n) :
    ∃ front back, subtrees n = front ++ subtrees m ++ back := by
  induction n using node_induction with
  | step n ih =>
    rw [subtrees_eq_cons] at hm
    rcases List.mem_cons.mp hm with rfl | hm
    · exact ⟨[], [], by simp⟩
    · obtain ⟨c, hc, hm⟩ := List.mem_flatMap.mp hm
      obtain ⟨front, back, heq⟩ := ih c hc hm
      obtain ⟨before, after, hchildren⟩ := List.append_of_mem hc
      refine ⟨n :: before.flatMap subtrees ++ front, back ++ after.flatMap subtrees, ?_⟩
      rw [subtrees_eq_cons n, hchildren, List.flatMap_append, List.flatMap_cons, heq]
      simp only [List.append_assoc, List.cons_append]

theorem subtrees_subset_of_mem {n m : Node} (hm : m ∈ subtrees n) : subtrees m ⊆ subtrees n := by
  intro x hx
  obtain ⟨front, back, heq⟩ := exists_subtrees_eq_append hm
  rw [heq]
  exact List.mem_append_left _ (List.mem_append_right _ hx)

end Settings

namespace Syntax.Node

variable {n m o c : Node} {l l' rest stack : List Node}

theorem closesBrace_eq_false (h : o.opensBrace = true) : o.closesBrace = false := by
  simp only [opensBrace, Bool.or_eq_true, decide_eq_true_eq] at h
  rcases h with h | h <;> simp [closesBrace, h]

theorem opensBrace_eq_false (h : c.closesBrace = true) : c.opensBrace = false := by
  cases ho : c.opensBrace with
  | false => rfl
  | true => exact absurd (closesBrace_eq_false ho) (by simp [h])

theorem isBrace_of_opens (h : o.opensBrace = true) : o.isBrace = true := by
  rw [isBrace, h, Bool.true_or]

theorem isBrace_of_closes (h : c.closesBrace = true) : c.isBrace = true := by
  rw [isBrace, h, Bool.or_true]

theorem mem_braces : m ∈ n.braces ↔ m ∈ subtrees n ∧ m.isBrace = true := List.mem_filter

theorem braces_eq_flatMap (h : n.isBrace = false) : n.braces = n.children.flatMap braces := by
  have hn : ¬n.isBrace = true := by
    rw [h]
    exact Bool.false_ne_true
  rw [braces, subtrees_eq_cons, List.filter_cons_of_neg hn, List.filter_flatMap]
  rfl

theorem braces_eq_singleton (h : n.isBrace = true) (hleaf : n.children.isEmpty = true) :
    n.braces = [n] := by
  rw [braces, subtrees_eq_cons, List.isEmpty_iff.mp hleaf, List.flatMap_nil,
    List.filter_cons_of_pos h, List.filter_nil]

/-- Braces that come in pairs, one in or behind the other. -/
inductive Nested : List Node → Prop
  | nil : Nested []
  | pair {o c : Node} {inner rest : List Node} (ho : o.opensBrace = true)
      (hc : c.closesBrace = true) (hinner : Nested inner) (hrest : Nested rest) :
      Nested (o :: (inner ++ c :: rest))

theorem Nested.append (h : Nested l) (h' : Nested l') : Nested (l ++ l') := by
  induction h with
  | nil => exact h'
  | pair ho hc hinner _ _ ih =>
    rw [List.cons_append, List.append_assoc, List.cons_append]
    exact .pair ho hc hinner ih

theorem Nested.flatMap {f : Node → List Node} (h : ∀ m ∈ l, Nested (f m)) :
    Nested (l.flatMap f) := by
  induction l with
  | nil => exact .nil
  | cons m l ih =>
    rw [List.flatMap_cons]
    apply (h m List.mem_cons_self).append
    apply ih
    intro x hx
    exact h x (List.mem_cons_of_mem m hx)

theorem Nested.countP_eq (h : Nested l) : l.countP closesBrace = l.countP opensBrace := by
  induction h with
  | nil => rfl
  | pair ho hc _ _ ihinner ihrest =>
    simp only [List.countP_cons, List.countP_append, ho, hc, closesBrace_eq_false ho,
      opensBrace_eq_false hc, ihinner, ihrest]
    simp only [Bool.false_eq_true, ↓reduceIte]
    omega

theorem Nested.countP_le (h : Nested l) {front : List Node} (hfront : front <+: l) :
    front.countP closesBrace ≤ front.countP opensBrace := by
  induction h generalizing front with
  | nil =>
    rw [List.prefix_nil.mp hfront]
    exact Nat.le_refl 0
  | @pair o c inner rest ho hc hinner _ ihinner ihrest =>
    rcases List.prefix_cons_iff.mp hfront with rfl | ⟨p, rfl, hp⟩
    · exact Nat.le_refl 0
    rw [List.countP_cons_of_neg (by simp [closesBrace_eq_false ho]), List.countP_cons_of_pos ho]
    -- the front ends within the pair, at the brace that closes it, or behind it
    rcases List.prefix_or_prefix_of_prefix hp (List.prefix_append inner (c :: rest)) with hp' | hp'
    · have := ihinner hp'
      omega
    · obtain ⟨q, rfl⟩ := hp'
      have hq : q <+: c :: rest := (List.prefix_append_right_inj inner).mp hp
      have hcount := hinner.countP_eq
      rw [List.countP_append, List.countP_append]
      rcases List.prefix_cons_iff.mp hq with rfl | ⟨r, rfl, hr⟩
      · simp only [List.countP_nil]
        omega
      · have := ihrest hr
        rw [List.countP_cons_of_pos hc, List.countP_cons_of_neg (by simp [opensBrace_eq_false hc])]
        omega

/-- The braces that are open after some more of them, the innermost first. -/
def unclosed : List Node → List Node → List Node
  | stack, [] => stack
  | stack, n :: ns =>
    if n.opensBrace then unclosed (n :: stack) ns
    else if n.closesBrace then unclosed stack.tail ns
    else unclosed stack ns

theorem Nested.unclosed_append (h : Nested l) : unclosed stack (l ++ rest) = unclosed stack rest := by
  induction h generalizing stack rest with
  | nil => rfl
  | pair ho hc _ _ ihinner ihrest =>
    rw [List.cons_append, List.append_assoc, List.cons_append, unclosed, if_pos ho, ihinner,
      unclosed, if_neg (by simp [opensBrace_eq_false hc]), if_pos hc, List.tail_cons, ihrest]

theorem mem_of_mem_unclosed (h : m ∈ unclosed stack l) : m ∈ stack ∨ m ∈ l := by
  induction l generalizing stack with
  | nil => exact .inl h
  | cons n ns ih =>
    rw [unclosed] at h
    split_ifs at h
    · rcases ih h with h | h
      · rcases List.mem_cons.mp h with rfl | h
        · exact .inr List.mem_cons_self
        · exact .inl h
      · exact .inr (List.mem_cons_of_mem n h)
    · exact (ih h).imp List.mem_of_mem_tail (List.mem_cons_of_mem n)
    · exact (ih h).imp_right (List.mem_cons_of_mem n)

theorem Paired.exists_eq (h : n.Paired) (hbrace : ∃ c ∈ n.children, c.isBrace = true) :
    ∃ o inner c, n.children = o :: (inner ++ [c]) ∧ o.opensBrace = true ∧ c.closesBrace = true ∧
      n.start = o.start ∧ n.stop = c.stop ∧ ∀ m ∈ inner, m.isBrace = false := by
  rcases h with hnone | ⟨o, ho, c, hc, hopens, hcloses, hstart, hstop, hinner⟩
  · obtain ⟨c, hc, hb⟩ := hbrace
    rw [hnone c hc] at hb
    cases hb
  · obtain ⟨more, hmore⟩ := List.head?_eq_some_iff.mp ho
    rw [hmore] at hc hinner ⊢
    rcases List.eq_nil_or_concat more with rfl | ⟨inner, d, rfl⟩
    · -- one node does not open and close
      obtain rfl := Option.some.inj hc
      exact absurd hcloses (by simp [closesBrace_eq_false hopens])
    · rw [List.concat_eq_append, ← List.cons_append, List.getLast?_concat] at hc
      obtain rfl := Option.some.inj hc
      rw [List.concat_eq_append, List.tail_cons, List.dropLast_concat] at hinner
      exact ⟨o, inner, d, by rw [List.concat_eq_append], hopens, hcloses, hstart, hstop, hinner⟩

theorem WellBraced.of_mem (h : n.WellBraced) (hm : m ∈ subtrees n) : m.WellBraced where
  leaf x hx := h.leaf x (subtrees_subset_of_mem hm hx)
  paired x hx := h.paired x (subtrees_subset_of_mem hm hx)

theorem WellBraced.child (h : n.WellBraced) (hm : m ∈ n.children) : m.WellBraced :=
  h.of_mem (subtrees_subset hm (self_mem_subtrees m))

theorem WellBraced.exists_braces_eq (h : n.WellBraced) (hbrace : ∃ c ∈ n.children, c.isBrace = true)
    (hchild : ∀ m ∈ n.children, m.isBrace = false → Nested m.braces) :
    ∃ o inner c, n.children.head? = some o ∧ o.opensBrace = true ∧ c.closesBrace = true ∧
      n.start = o.start ∧ n.stop = c.stop ∧ Nested inner ∧ n.braces = o :: (inner ++ [c]) := by
  have hn : n.isBrace = false := by
    by_contra hn
    have hempty := h.leaf n (self_mem_subtrees n) (by simpa using hn)
    obtain ⟨c, hc, -⟩ := hbrace
    rw [List.isEmpty_iff.mp hempty] at hc
    cases hc
  obtain ⟨o, inner, c, hchildren, ho, hc, hstart, hstop, hinner⟩ :=
    (h.paired n (self_mem_subtrees n)).exists_eq hbrace
  have hsingle {m : Node} (hm : m ∈ n.children) (hb : m.isBrace = true) : m.braces = [m] :=
    braces_eq_singleton hb ((h.child hm).leaf m (self_mem_subtrees m) hb)
  rw [braces_eq_flatMap hn]
  rw [hchildren] at hsingle hchild ⊢
  have hopen := hsingle (m := o) List.mem_cons_self (isBrace_of_opens ho)
  have hclose := hsingle (m := c) (by simp) (isBrace_of_closes hc)
  refine ⟨o, inner.flatMap braces, c, rfl, ho, hc, hstart, hstop, ?_, ?_⟩
  · apply Nested.flatMap
    intro m hm
    exact hchild m (by simp [hm]) (hinner m hm)
  · rw [List.flatMap_cons, List.flatMap_append, List.flatMap_singleton, hopen, hclose]
    rfl

theorem WellBraced.nested (h : n.WellBraced) (hn : n.isBrace = false) : Nested n.braces := by
  induction n using node_induction with
  | step n ih =>
    have hchild : ∀ m ∈ n.children, m.isBrace = false → Nested m.braces := by
      intro m hm
      exact ih m hm (h.child hm)
    by_cases hbrace : ∃ c ∈ n.children, c.isBrace = true
    · -- a pair of braces around those of the children between them
      obtain ⟨o, inner, c, -, ho, hc, -, -, hinner, heq⟩ := h.exists_braces_eq hbrace hchild
      rw [heq]
      exact .pair ho hc hinner .nil
    · -- no braces of its own, so those of the children follow one another
      rw [braces_eq_flatMap hn]
      apply Nested.flatMap
      intro m hm
      apply hchild m hm
      by_contra hb
      exact hbrace ⟨m, hm, by simpa using hb⟩

end Syntax.Node

namespace Settings

variable {n m : Node}

theorem InOrder.pairwise_braces (h : InOrder n) (hbraced : n.WellBraced) :
    n.braces.Pairwise fun a b => a.stop ≤ b.start := by
  induction n using node_induction with
  | step n ih =>
    cases hn : n.isBrace with
    | true =>
      rw [Node.braces_eq_singleton hn (hbraced.leaf n (self_mem_subtrees n) hn)]
      exact List.pairwise_singleton _ n
    | false =>
      rw [Node.braces_eq_flatMap hn]
      apply List.pairwise_flatMap.mpr
      constructor
      · intro m hm
        exact ih m hm (h.child hm) (hbraced.child hm)
      · -- braces of different children lie where these children lie
        apply (h.ordered n (self_mem_subtrees n)).imp_of_mem
        intro a b ha hb hab x hx y hy
        have hxa := (h.child ha).within_of_mem (Node.mem_braces.mp hx).1
        have hyb := (h.child hb).within_of_mem (Node.mem_braces.mp hy).1
        omega

theorem LaidOut.within_ancestor {u v : Visited} {path : List Nat} (h : LaidOut u.node)
    (hv : u.descend path = some v) {a : Node} (ha : a ∈ v.ancestors) :
    a ∈ u.ancestors ∨ a.start ≤ v.node.start ∧ v.node.stop ≤ a.stop := by
  induction path generalizing u with
  | nil =>
    cases hv
    exact .inl ha
  | cons i path ih =>
    have hwhole := h.within hv
    obtain ⟨c, hi, hrest⟩ := descend_cons_eq_some.mp hv
    rcases ih (u := ⟨c, u.node :: u.ancestors⟩) (h.child (List.mem_of_getElem? hi)) hrest with
      habove | hin
    · rcases List.mem_cons.mp habove with rfl | habove
      · exact .inr hwhole
      · exact .inl habove
    · exact .inr hin

end Settings

theorem spelled_brace {source : Bytes} {n : Node} (hn : n.isBrace = true)
    (h : Edit.slice source n.start n.stop = encode n.kind) :
    n.start < n.stop ∧ (∃ b ∈ source[n.start]?, b ∈ [123, 92, 125]) ∧
      (n.closesBrace = true → source[n.start]? = some 125 ∧
        (n.start + 1 < source.length → n.stop = n.start + 1)) := by
  have hfirst (b : UInt8) (more : Bytes) (hslice : Edit.slice source n.start n.stop = b :: more) :
      n.start < n.stop ∧ source[n.start]? = some b := by
    have hlt : n.start < n.stop := by
      by_contra hle
      rw [Edit.slice, show n.stop - n.start = 0 by omega, List.take_zero] at hslice
      cases hslice
    refine ⟨hlt, ?_⟩
    have hget : (Edit.slice source n.start n.stop)[0]? = some b := by
      rw [hslice]
      rfl
    rwa [Edit.slice, List.getElem?_take_of_lt (by omega), List.getElem?_drop, Nat.add_zero] at hget
  -- a brace stands in one byte, but for the one that opens an expression within a string
  simp only [Node.isBrace, Node.opensBrace, Node.closesBrace, Bool.or_eq_true,
    decide_eq_true_eq] at hn ⊢
  rcases hn with (hk | hk) | hk
  · rw [hk] at h
    obtain ⟨hlt, hget⟩ := hfirst 123 [] h
    exact ⟨hlt, ⟨123, hget, by simp⟩, fun hclose => absurd (hk.symm.trans hclose) (by decide)⟩
  · rw [hk] at h
    obtain ⟨hlt, hget⟩ := hfirst 92 [123] h
    exact ⟨hlt, ⟨92, hget, by simp⟩, fun hclose => absurd (hk.symm.trans hclose) (by decide)⟩
  · rw [hk] at h
    obtain ⟨hlt, hget⟩ := hfirst 125 [] h
    refine ⟨hlt, ⟨125, hget, by simp⟩, fun _ => ⟨hget, fun hlength => ?_⟩⟩
    have hone : (Edit.slice source n.start n.stop).length = 1 := by
      rw [h]
      rfl
    rw [Edit.slice, List.length_take, List.length_drop] at hone
    omega

namespace Sketch

/-- Whether a node starts within a sketch of some length, and not in the head or the tail. -/
def holdsStart (s : Sketch) (length : Nat) (n : Node) : Bool :=
  s.offset ≤ n.start && n.start < s.offset + length

/-- The braces of a sketch of some length, without those of the head and the tail. -/
def ownBraces (s : Sketch) (length : Nat) : List Node := s.root.braces.filter (s.holdsStart length)

/-- The text of a sketch of some length between head and tail. -/
structure Between (s : Sketch) (length : Nat) : Prop where
  source : ∃ text : Bytes, text.length = length ∧ s.source = wrapperHead ++ text ++ wrapperTail
  offset : s.offset = wrapperHead.length

variable {s : Sketch} {length : Nat} {n : Node}

theorem holdsStart_iff :
    s.holdsStart length n = true ↔ s.offset ≤ n.start ∧ n.start < s.offset + length := by
  simp only [holdsStart, Bool.and_eq_true, decide_eq_true_eq]

theorem Between.length_eq (h : s.Between length) :
    s.offset = 25 ∧ s.source.length = s.offset + length + 3 := by
  obtain ⟨⟨text, hlength, hsource⟩, hoffset⟩ := h
  have hhead : wrapperHead.length = 25 := by decide
  have htail : wrapperTail.length = 3 := by decide
  rw [hoffset, hsource, List.length_append, List.length_append, hlength, htail]
  exact ⟨hhead, rfl⟩

theorem Between.place_of_mem (h : s.Between length) (hb : Bracketed s) (hn : n ∈ s.root.braces) :
    n.start < n.stop ∧ (n.start + 2 = s.offset ∨
      s.offset ≤ n.start ∧ n.start < s.offset + length ∨ n.start + 2 = s.source.length) := by
  obtain ⟨hlt, ⟨b, hget, hbyte⟩, -⟩ :=
    spelled_brace (Node.mem_braces.mp hn).2 (hb.spelled n hn)
  obtain ⟨hoffset, hlength⟩ := h.length_eq
  obtain ⟨⟨text, htext, hsource⟩, hhead⟩ := h
  have hget : s.source[n.start]? = some b := hget
  rw [hsource, List.append_assoc] at hget
  refine ⟨hlt, ?_⟩
  by_cases hbefore : n.start < 25
  · -- in the head, only the last byte but one is that of a brace
    have hfirst : ∀ i < 25, ∀ b ∈ wrapperHead[i]?, b ∈ [123, 92, 125] → i = 23 := by
      decide +kernel
    rw [List.getElem?_append_left (by omega)] at hget
    have := hfirst n.start hbefore b hget hbyte
    omega
  · by_cases hown : n.start < s.offset + length
    · exact .inr (.inl ⟨by omega, hown⟩)
    · -- and in the tail only the one in the middle
      have hlast : ∀ i < 3, ∀ b ∈ wrapperTail[i]?, b ∈ [123, 92, 125] → i = 1 := by
        decide +kernel
      rw [List.getElem?_append_right (by omega), List.getElem?_append_right (by omega)] at hget
      have hinside : n.start - wrapperHead.length - text.length < 3 :=
        (List.getElem?_eq_some_iff.mp hget).1
      have := hlast _ hinside b hget hbyte
      omega

/-- The braces of the tree are, from first to last, the one that opens the body of the class, those
within the body, the one that closes it, and others behind it. -/
theorem Between.braces_eq (h : s.Between length) (hb : Bracketed s) (horder : InOrder s.root) :
    ∃ body o inner c behind, s.classBody? = some body ∧ body.children.head? = some o ∧
      o.opensBrace = true ∧ o.start + 2 = s.offset ∧ c.closesBrace = true ∧ body.stop = c.stop ∧
      Node.Nested inner ∧ s.root.braces = o :: (inner ++ c :: behind) := by
  obtain ⟨body, hbody, hstart, hsome⟩ := hb.opened
  have hbodymem : body ∈ subtrees s.root := by
    obtain ⟨i, j, cls, -, -, hi, hj⟩ := classBody?_eq_some_iff.mp hbody
    have hcls := subtrees_subset (List.mem_of_getElem? hi)
    exact hcls (subtrees_subset (List.mem_of_getElem? hj) (self_mem_subtrees body))
  have hbraced := hb.braced.of_mem hbodymem
  obtain ⟨o, inner, c, hhead, ho, hc, hostart, hcstop, hinner, hbraces⟩ :=
    hbraced.exists_braces_eq hsome fun m hm => (hbraced.child hm).nested
  -- all nodes are those in front of the body, those of the body, and those behind it
  obtain ⟨front, behind, heq⟩ := exists_subtrees_eq_append hbodymem
  have hsplit : s.root.braces =
      front.filter Node.isBrace ++ (o :: (inner ++ c :: behind.filter Node.isBrace)) := by
    have hmiddle : (subtrees body).filter Node.isBrace = o :: (inner ++ [c]) := hbraces
    rw [Node.braces, heq, List.filter_append, List.filter_append, hmiddle]
    simp only [List.append_assoc, List.cons_append, List.nil_append]
  have hpairs := horder.pairwise_braces hb.braced
  -- in front of the class there is no room for a brace
  have hnone : front.filter Node.isBrace = [] := by
    rw [List.eq_nil_iff_forall_not_mem]
    intro x hx
    have hmem : x ∈ s.root.braces := by
      rw [hsplit]
      exact List.mem_append_left _ hx
    rw [hsplit] at hpairs
    have hbefore := (List.pairwise_append.mp hpairs).2.2 x hx o List.mem_cons_self
    have := h.place_of_mem hb hmem
    have := h.length_eq
    omega
  rw [hnone, List.nil_append] at hsplit
  exact ⟨body, o, inner, c, behind.filter Node.isBrace, hbody, hhead, ho, by omega, hc, hcstop,
    hinner, hsplit⟩

/-- The class is closed by the tail, and then the sketch has the braces within the body and no
other, or it is closed by a brace of the sketch, and then others of the sketch may follow. -/
theorem Between.ownBraces_eq (h : s.Between length) (hb : Bracketed s) (horder : InOrder s.root) :
    ∃ body o inner c, s.classBody? = some body ∧ body.children.head? = some o ∧
      o.opensBrace = true ∧ c.closesBrace = true ∧ body.stop = c.stop ∧ Node.Nested inner ∧
      ((s.ownBraces length = inner ∧ c.stop + 1 = s.source.length) ∨
        ∃ later, s.ownBraces length = inner ++ c :: later ∧ o ∉ later ∧
          c.stop ≤ s.offset + length) := by
  obtain ⟨body, o, inner, c, behind, hbody, hhead, ho, hostart, hc, hstop, hinner, hbraces⟩ :=
    h.braces_eq hb horder
  refine ⟨body, o, inner, c, hbody, hhead, ho, hc, hstop, hinner, ?_⟩
  obtain ⟨hoffset, hlength⟩ := h.length_eq
  have hplace {m : Node} (hm : m ∈ o :: (inner ++ c :: behind)) := h.place_of_mem hb (hbraces ▸ hm)
  have hpairs := horder.pairwise_braces hb.braced
  rw [hbraces] at hpairs
  obtain ⟨hfirst, hpairs⟩ := List.pairwise_cons.mp hpairs
  obtain ⟨-, hpairs, hbefore⟩ := List.pairwise_append.mp hpairs
  obtain ⟨hbehind, -⟩ := List.pairwise_cons.mp hpairs
  have hoplace := hplace (m := o) List.mem_cons_self
  have hcplace := hplace (m := c) (by simp)
  have hco := hfirst c (by simp)
  have hcwidth : c.start + 1 < s.source.length → c.stop = c.start + 1 := by
    have hmem : c ∈ s.root.braces := by
      rw [hbraces]
      simp
    exact ((spelled_brace (Node.mem_braces.mp hmem).2 (hb.spelled c hmem)).2.2 hc).2
  have hopening : o ∉ behind := fun hmem => by
    have := hbehind o hmem
    omega
  -- what lies within the body is the sketch's own, and the opening brace is not
  have hown : s.ownBraces length = inner ++ (c :: behind).filter (s.holdsStart length) := by
    have hnot : ¬s.holdsStart length o = true := by
      rw [holdsStart_iff]
      omega
    have hall : ∀ m ∈ inner, s.holdsStart length m = true := by
      intro m hm
      have := hfirst m (by simp [hm])
      have := hbefore m hm c List.mem_cons_self
      have := hplace (m := m) (by simp [hm])
      rw [holdsStart_iff]
      omega
    rw [ownBraces, hbraces, List.filter_cons_of_neg hnot, List.filter_append,
      List.filter_eq_self.mpr hall]
  -- the class is closed by the brace of the tail or by one of the sketch's own
  by_cases hlast : c.start + 2 = s.source.length
  · left
    have hnone : (c :: behind).filter (s.holdsStart length) = [] := by
      refine List.filter_eq_nil_iff.mpr fun m hm => ?_
      rw [holdsStart_iff]
      rcases List.mem_cons.mp hm with rfl | hm
      · omega
      · have := hbehind m hm
        omega
    rw [hown, hnone, List.append_nil]
    exact ⟨rfl, by omega⟩
  · right
    have hin : s.holdsStart length c = true := by
      rw [holdsStart_iff]
      omega
    rw [hown, List.filter_cons_of_pos hin]
    have := hcwidth (by omega)
    exact ⟨_, rfl, fun hmem => hopening (List.mem_of_mem_filter hmem), by omega⟩

theorem length_blankImports {source : Bytes} {imports : List Import}
    (h : ∀ m ∈ imports, m.start ≤ m.stop ∧ m.stop ≤ source.length) :
    (blankImports source imports).length = source.length := by
  unfold blankImports
  induction imports generalizing source with
  | nil => rfl
  | cons m ms ih =>
    obtain ⟨hle, hstop⟩ := h m List.mem_cons_self
    have hblank := length_blank hle hstop
    rw [List.foldl_cons, ih, hblank]
    intro k hk
    rw [hblank]
    exact h k (List.mem_cons_of_mem m hk)

/-- Imports are blanked out byte by byte, so that the text of a sketch in a class keeps its length. -/
theorem between_read {source : Bytes} (hw : (read source).isWrapped = true) :
    (read source).Between source.length := by
  obtain ⟨-, -, hwrapped⟩ := root_read source
  obtain ⟨hsource, hoffset, -⟩ := hwrapped hw
  exact ⟨⟨_, length_blankImports (within_of_mem_imports source), hsource⟩, hoffset⟩

end Sketch

theorem within_body_of_mem {s : Sketch} {entryMethod : String} (horder : InOrder s.root)
    (hw : s.isWrapped = true) (hm : s.mode = .active) {c : Call}
    (hc : c ∈ callsOf s entryMethod) (hscope : c.scope ≠ .invalid) {body : Node}
    (hbody : s.classBody? = some body) :
    s.ownOffset body.start ≤ c.site.start ∧ c.site.stop ≤ s.ownOffset body.stop := by
  obtain ⟨path, v, hv, -, hk, hclass, hstart, hstop⟩ := exists_place_of_mem hc hscope
  have hn := start_lt_stop_of_settingOf? (horder.inside v.node (mem_subtrees_of_place hv)) hk
  have hentry : InEntryMethod s entryMethod path v.ancestors := by
    by_contra he
    refine hclass ((invalid_iff horder.laidOut hv hn).mpr ⟨fun hi => ?_, he⟩)
    cases hm.symm.trans hi.1
  obtain ⟨-, statement, block, method, above, ha, -, -, -, -, hmember⟩ := hentry
  -- the method that the call stands in is a member of the sketch's class
  have habove : body ∈ v.ancestors := by
    rcases hmember with ⟨-, hplain, -⟩ | ⟨body', cls, rfl, hbody', -⟩
    · cases hplain.symm.trans hw
    · rw [hbody, Option.some.injEq] at hbody'
      subst hbody'
      rw [ha]
      simp
  have hin : body.start ≤ v.node.start ∧ v.node.stop ≤ body.stop := by
    rcases LaidOut.within_ancestor (u := ⟨s.root, []⟩) horder.laidOut hv habove with hnil | hin
    · cases hnil
    · exact hin
  rw [hstart, hstop]
  unfold Sketch.ownOffset
  omega

/-- Of a sketch that was read inside a class, the calls that may be taken out lie in the body of this
class. The body goes on to the brace behind the sketch, and so has all of the sketch in it, exactly
if the braces of the sketch never close more than they open, and exactly then its own brace is what
is open at the end of the sketch, where members are added. -/
theorem class_closes_last_iff (t entryMethod : String)
    (hw : (Sketch.read (encode t)).isWrapped = true) (hb : Bracketed (Sketch.read (encode t))) :
    let s := Sketch.read (encode t)
    let own := s.ownBraces (encode t).length
    ∃ body o, s.classBody? = some body ∧ body.children.head? = some o ∧ o.opensBrace = true ∧
      (∀ c ∈ callsOf s entryMethod, c.scope ≠ .invalid →
        s.ownOffset body.start ≤ c.site.start ∧ c.site.stop ≤ s.ownOffset body.stop) ∧
      (body.stop + 1 = s.source.length ↔ ∀ front, front <+: own →
        front.countP Node.closesBrace ≤ front.countP Node.opensBrace) ∧
      (body.stop + 1 = s.source.length ↔ s.offset + (encode t).length < body.stop) ∧
      (body.stop + 1 = s.source.length ↔ Node.unclosed [o] own = [o]) := by
  intro s own
  have hbetween := Sketch.between_read hw
  have horder : InOrder s.root := (Sketch.wellPlaced_read t).inOrder
  obtain ⟨-, hlength⟩ := hbetween.length_eq
  obtain ⟨body, o, inner, c, hbody, hhead, ho, hc, hstop, hinner, hown⟩ :=
    hbetween.ownBraces_eq hb horder
  have hmode : s.mode = .active := by
    obtain ⟨-, -, hwrapped⟩ := Sketch.root_read (encode t)
    exact (hwrapped hw).2.2
  refine ⟨body, o, hbody, hhead, ho,
    fun d hd hscope => within_body_of_mem horder hw hmode hd hscope hbody, ?_⟩
  have hlength : s.source.length = s.offset + (encode t).length + 3 := hlength
  rcases hown with ⟨hown, hlast⟩ | ⟨later, hown, hnot, hearly⟩
  · -- the sketch has the braces within the body, which come in pairs
    have hown : own = inner := hown
    have hlast : body.stop + 1 = s.source.length := hstop ▸ hlast
    have hopen : Node.unclosed [o] (inner ++ []) = [o] := hinner.unclosed_append
    rw [List.append_nil] at hopen
    rw [hown]
    exact ⟨iff_of_true hlast fun front hfront => hinner.countP_le hfront,
      iff_of_true hlast (by omega), iff_of_true hlast hopen⟩
  · have hown : own = inner ++ c :: later := hown
    have hinside : c.stop ≤ s.offset + (encode t).length := hearly
    have hearly : ¬body.stop + 1 = s.source.length := by omega
    have hshort : ¬s.offset + (encode t).length < body.stop := by omega
    refine ⟨iff_of_false hearly fun hall => ?_, iff_of_false hearly hshort,
      iff_of_false hearly ?_⟩
    · -- up to the brace that closes the class, one more is closed than opened
      have hfront : inner ++ [c] <+: own := ⟨later, by rw [hown]; simp⟩
      have hle := hall _ hfront
      have hcount := hinner.countP_eq
      rw [List.countP_append, List.countP_append, List.countP_singleton, List.countP_singleton, hc,
        Node.opensBrace_eq_false hc] at hle
      simp only [↓reduceIte, Bool.false_eq_true] at hle
      omega
    · rw [hown, hinner.unclosed_append, Node.unclosed, if_neg (by simp [Node.opensBrace_eq_false hc]),
        if_pos hc, List.tail_cons]
      intro hopen
      -- its own brace is closed by now, and cannot be among those that follow
      have hmem : o ∈ Node.unclosed [] later := by
        rw [hopen]
        exact List.mem_singleton_self o
      rcases Node.mem_of_mem_unclosed hmem with hnil | hmem
      · cases hnil
      · exact hnot hmem

/-- A sketch with a block that may only stand in a class. -/
def initializedSketch : String := "static\x7b\x7dvoid f()\x7bsize(1,2);\x7d"

/-- The size of this sketch stands in the class to which members are added. -/
theorem class_closes_last_iff_initialized :
    let s := Sketch.read (encode initializedSketch)
    ∃ body o, ∃ c ∈ callsOf s "f", s.isWrapped = true ∧ Bracketed s ∧ s.classBody? = some body ∧
      body.children.head? = some o ∧ c.scope ≠ .invalid ∧
      s.ownOffset body.start ≤ c.site.start ∧ c.site.stop ≤ s.ownOffset body.stop ∧
      body.stop + 1 = s.source.length ∧
      Node.unclosed [o] (s.ownBraces (encode initializedSketch).length) = [o] := by
  intro s
  obtain ⟨wrapped, hwrapped⟩ : ∃ wrapped, wrapped =
    Sketch.wrapperHead ++ encode initializedSketch ++ Sketch.wrapperTail := ⟨_, rfl⟩
  -- the two parses are evaluated one at a time
  have hraw : (Node.parse (encode initializedSketch)).2 = true ∧
      Sketch.findImports (encode initializedSketch)
        (Node.parse (encode initializedSketch)).1 = [] := by
    decide +kernel
  have hrun : (Node.parse wrapped).2 = false ∧ Bracketed (Sketch.ofWrapped wrapped) ∧
      (Sketch.ofWrapped wrapped).isWrapped = true ∧
      (∀ body ∈ (Sketch.ofWrapped wrapped).classBody?,
        body.stop + 1 = (Sketch.ofWrapped wrapped).source.length) ∧
      ∃ c ∈ callsOf (Sketch.ofWrapped wrapped) "f", c.scope ≠ .invalid := by
    rw [hwrapped]
    decide +kernel
  obtain ⟨hclean, hrun⟩ := hrun
  have hread : s = Sketch.ofWrapped wrapped := Sketch.read_eq_ofWrapped hraw hwrapped hclean
  rw [← hread] at hrun
  obtain ⟨hbracketed, hw, hlast, c, hc, hscope⟩ := hrun
  obtain ⟨body, o, hbody, hhead, -, hcalls, -, -, hopen⟩ :=
    class_closes_last_iff initializedSketch "f" hw hbracketed
  have hstop := hlast body hbody
  obtain ⟨hlow, hhigh⟩ := hcalls c hc hscope
  exact ⟨body, o, c, hc, hw, hbracketed, hbody, hhead, hscope, hlow, hhigh, hstop, hopen.mp hstop⟩

/-- A sketch with a brace too many in front of a class that lacks one. -/
def straySketch : String := "void f()\x7bsize(1,2);\x7d\x7dclass B\x7b"

/-- This sketch closes the class around it. The size that is taken out stands in that class, and the
methods for it are added to the other one. -/
theorem stray_brace_closes_class :
    let s := Sketch.read (encode straySketch)
    s.isWrapped = true ∧ ∃ body o b g, s.classBody? = some body ∧ body.children.head? = some o ∧
      body.stop + 1 ≠ s.source.length ∧
      generate (encode straySketch) "A" none { entryMethod := "f" } = .ok g ∧
      g.accessors.length = 2 ∧
      Node.unclosed [o] (s.ownBraces (encode straySketch).length) = [b] ∧ b.start ≠ o.start := by
  intro s
  obtain ⟨wrapped, hwrapped⟩ : ∃ wrapped, wrapped =
    Sketch.wrapperHead ++ encode straySketch ++ Sketch.wrapperTail := ⟨_, rfl⟩
  -- the two parses are evaluated one at a time
  have hraw : (Node.parse (encode straySketch)).2 = true ∧
      Sketch.findImports (encode straySketch) (Node.parse (encode straySketch)).1 = [] := by
    decide +kernel
  have hrun : (Node.parse wrapped).2 = false ∧ (Sketch.ofWrapped wrapped).isWrapped = true ∧
      (∃ body ∈ (Sketch.ofWrapped wrapped).classBody?, ∃ o ∈ body.children.head?,
        body.stop + 1 ≠ (Sketch.ofWrapped wrapped).source.length ∧ o.start = 23 ∧
        (Node.unclosed [o] ((Sketch.ofWrapped wrapped).ownBraces 29)).map (·.start) = [53]) ∧
      (Generate.assemble (fun _ _ => ()) (encode straySketch) "A"
        (Generate.packageOf none { entryMethod := "f" }) { entryMethod := "f" }
        (Sketch.ofWrapped wrapped) ()).1.toOption.any fun g => g.accessors.length = 2 := by
    rw [hwrapped]
    decide +kernel
  obtain ⟨hclean, hw, ⟨body, hbody, o, hhead, hstop, hstart, hopen⟩, hgenerated⟩ := hrun
  have hread : s = Sketch.ofWrapped wrapped := Sketch.read_eq_ofWrapped hraw hwrapped hclean
  rw [← hread] at hw hbody hstop hopen hgenerated
  obtain ⟨b, hb, hbstart⟩ := List.map_eq_singleton_iff.mp hopen
  have hvalid : ClassName.isValid "A" = true := by decide
  have hreads : Sketch.read? (encode straySketch) = some s := by
    refine Sketch.read?_eq_some_iff.mpr ⟨rfl, fun hplain => ?_⟩
    rw [hw] at hplain
    cases hplain
  rw [← generateWith_eq hvalid hreads] at hgenerated
  change (generate _ _ _ _).toOption.any _ at hgenerated
  cases hg : generate (encode straySketch) "A" none { entryMethod := "f" } with
  | error e =>
    rw [hg] at hgenerated
    cases hgenerated
  | ok g =>
    rw [hg] at hgenerated
    have haccessors : g.accessors.length = 2 := of_decide_eq_true hgenerated
    exact ⟨hw, body, o, b, g, hbody, hhead, hstop, rfl, haccessors, hb, by omega⟩

end Sketchbook
