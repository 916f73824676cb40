import Mathlib.Data.List.TakeWhile
import Sketchbook.Proofs.Completing

namespace Sketchbook

open Sketchbook.Syntax (Node Role)
open Sketchbook.Settings Sketchbook.Editing Sketchbook.Text Sketchbook.Text.Utf8

namespace Text

variable {cs front w back : List Char}

theorem blankSplit_cons_blank {b : Char} (hb : isBlank b = true) (cs : List Char) :
    blankSplit (b :: cs) = blankSplit cs := by
  rw [blankSplit.eq_def]
  simp only [hb, ↓reduceIte]

theorem blankSplit_append_blank {b : Char} (hb : isBlank b = true) (xs ys : List Char) :
    blankSplit (xs ++ b :: ys) = blankSplit xs ++ blankSplit ys := by
  -- the first character is blank, all there is, a word in front of a blank, or goes on with a word
  fun_induction blankSplit xs with
  | case1 => exact blankSplit_cons_blank hb ys
  | case2 c rest hc ih => rw [List.cons_append, blankSplit_cons_blank hc, ih]
  | case3 c hc =>
    rw [List.cons_append, List.nil_append, blankSplit.eq_def]
    simp only [hc, hb, ↓reduceIte, blankSplit_cons_blank hb]
    rfl
  | case4 c hc d rest hd ih =>
    rw [List.cons_append, List.cons_append, blankSplit.eq_def]
    simp only [hc, hd, Bool.false_eq_true, ↓reduceIte]
    rw [← List.cons_append, ih, List.cons_append]
  | case5 c hc d rest hd w ws hws ih =>
    rw [hws] at ih
    rw [List.cons_append, List.cons_append, blankSplit.eq_def]
    simp only [hc, hd, Bool.false_eq_true, ↓reduceIte]
    rw [← List.cons_append, ih, hws]
    rfl
  | case6 c hc d rest hd hws ih =>
    exact absurd (blankSplit_eq_nil_iff.mp hws d List.mem_cons_self) hd

theorem blankSplit_word (hw : w ≠ []) (hplain : ∀ c ∈ w, isBlank c = false) :
    blankSplit w = [w] := by
  induction w with
  | nil => exact absurd rfl hw
  | cons c w ih =>
    have hc := hplain c List.mem_cons_self
    cases w with
    | nil =>
      rw [blankSplit.eq_def]
      simp only [hc, Bool.false_eq_true, ↓reduceIte]
    | cons d w =>
      have hd := hplain d (List.mem_cons_of_mem c List.mem_cons_self)
      have hrest := ih (List.cons_ne_nil d w) fun x hx => hplain x (List.mem_cons_of_mem c hx)
      rw [blankSplit.eq_def]
      simp only [hc, hd, hrest, Bool.false_eq_true, ↓reduceIte]

theorem getLast?_blankSplit (hfront : ∀ c ∈ front.getLast?, isBlank c = true) (hw : w ≠ [])
    (hplain : ∀ c ∈ w, isBlank c = false) (hback : ∀ c ∈ back, isBlank c = true) :
    (blankSplit (front ++ w ++ back)).getLast? = some w := by
  have hword : (blankSplit (front ++ w)).getLast? = some w := by
    rcases List.eq_nil_or_concat front with rfl | ⟨xs, b, rfl⟩
    · rw [List.nil_append, blankSplit_word hw hplain]
      rfl
    · rw [List.concat_eq_append] at hfront ⊢
      rw [List.append_assoc, List.singleton_append,
        blankSplit_append_blank (hfront b List.getLast?_concat), blankSplit_word hw hplain,
        List.getLast?_concat]
  -- the blanks behind it are no words
  cases back with
  | nil => rw [List.append_nil, hword]
  | cons b ys =>
    have hnone : blankSplit ys = [] :=
      blankSplit_eq_nil_iff.mpr fun c hc => hback c (List.mem_cons_of_mem b hc)
    rw [blankSplit_append_blank (hback b List.mem_cons_self), hnone, List.append_nil, hword]

theorem exists_suffix (p : Char → Bool) (cs : List Char) : ∃ front w, cs = front ++ w ∧
    (∀ c ∈ w, p c = true) ∧ ∀ c ∈ front.getLast?, p c = false := by
  have hsplit := List.takeWhile_append_dropWhile (p := p) (l := cs.reverse)
  refine ⟨(cs.reverse.dropWhile p).reverse, (cs.reverse.takeWhile p).reverse, ?_, fun c hc => ?_,
    fun c hc => ?_⟩
  · rw [← List.reverse_append, hsplit, List.reverse_reverse]
  · exact List.mem_takeWhile_imp (List.mem_reverse.mp hc)
  · rw [List.getLast?_reverse] at hc
    obtain ⟨more, hmore⟩ := List.head?_eq_some_iff.mp hc
    exact dropWhile_eq_cons hmore

theorem exists_last_word (h : ¬∀ c ∈ cs, isBlank c = true) :
    ∃ front w back, cs = front ++ w ++ back ∧ w ≠ [] ∧ (∀ c ∈ w, isBlank c = false) ∧
      (∀ c ∈ back, isBlank c = true) ∧ ∀ c ∈ front.getLast?, isBlank c = true := by
  obtain ⟨rest, back, rfl, hback, hrest⟩ := exists_suffix isBlank cs
  obtain ⟨front, w, rfl, hw, hfront⟩ := exists_suffix (fun c => !isBlank c) rest
  simp only [Bool.not_eq_true', Bool.not_eq_false'] at hw hfront
  refine ⟨front, w, back, rfl, ?_, hw, hback, hfront⟩
  rintro rfl
  -- what is left without the blanks behind it does not end in a blank
  rw [List.append_nil] at h hrest
  cases hlast : front.getLast? with
  | none =>
    rw [List.getLast?_eq_none_iff.mp hlast] at h
    exact h hback
  | some c => exact absurd ((hrest c hlast).symm.trans (hfront c hlast)) Bool.false_ne_true

end Text

namespace Sketch

variable {cs front back : List Char} {source : Bytes} {n : Node}

/-- Whether a word may begin behind some characters: there are none, or the last one is blank or a
dot. -/
def Free (front : List Char) : Prop := ∀ c ∈ front.getLast?, isBlank c = true ∨ c = '.'

/-- A text has the name of the base class at its end, with at most blanks behind it. -/
def EndsInBase (cs : List Char) : Prop :=
  ∃ front back, cs = front ++ baseClass.toList ++ back ∧ Free front ∧ ∀ c ∈ back, isBlank c = true

theorem afterLastDot_append {x : List Char} (hx : '.' ∉ x)
    (hfront : ∀ c ∈ front.getLast?, c = '.') : afterLastDot (front ++ x) = x := by
  have hplain : ∀ c ∈ x.reverse, decide (c ≠ '.') = true := by
    intro c hc
    refine decide_eq_true fun hdot => hx ?_
    rw [← hdot]
    exact List.mem_reverse.mp hc
  rw [afterLastDot, List.reverse_append, List.takeWhile_append_of_pos hplain]
  cases hfr : front.reverse with
  | nil => rw [List.takeWhile_nil, List.append_nil, List.reverse_reverse]
  | cons c more =>
    have hc : c = '.' := hfront c (by rw [← List.head?_reverse, hfr]; rfl)
    rw [List.takeWhile_cons_of_neg (by simp [hc]), List.append_nil, List.reverse_reverse]

theorem afterLastDot_eq_iff {w x : List Char} :
    afterLastDot w = x ↔ '.' ∉ x ∧ ∃ front, w = front ++ x ∧ ∀ c ∈ front.getLast?, c = '.' := by
  constructor
  · rintro rfl
    obtain ⟨front, x, rfl, hx, hfront⟩ := exists_suffix (fun c => decide (c ≠ '.')) w
    simp only [decide_eq_true_eq, decide_eq_false_iff_not, Decidable.not_not] at hx hfront
    have hdot : '.' ∉ x := fun hmem => hx '.' hmem rfl
    rw [afterLastDot_append hdot hfront]
    exact ⟨hdot, front, rfl, hfront⟩
  · rintro ⟨hx, front, rfl, hfront⟩
    exact afterLastDot_append hx hfront

/-- Whether a character may stand within a word: it is neither blank nor a dot. -/
def isPlain (c : Char) : Bool := !isBlank c && c ≠ '.'

theorem isPlain_iff {c : Char} : isPlain c = true ↔ isBlank c = false ∧ c ≠ '.' := by
  rw [isPlain, Bool.and_eq_true, Bool.not_eq_true', decide_eq_true_eq]

theorem baseClass_plain : ∀ c ∈ baseClass.toList, isBlank c = false ∧ c ≠ '.' := fun c hc =>
  isPlain_iff.mp (List.all_eq_true.mp (by decide : baseClass.toList.all isPlain = true) c hc)

theorem baseClass_letters : ∀ c ∈ baseClass.toList, c.isAlpha = true :=
  List.all_eq_true.mp (by decide)

theorem baseClass_ne_nil : baseClass.toList ≠ [] := by
  decide

/-- The last word of a text ends in the name of the base class behind the last dot, if any, exactly
if the text ends in it. -/
theorem endsInBase_iff : EndsInBase cs ↔
    ∃ w ∈ (blankSplit cs).getLast?, String.ofList (afterLastDot w) = baseClass := by
  have hof (x : List Char) : String.ofList x = baseClass ↔ x = baseClass.toList := by
    rw [← String.toList_inj, String.toList_ofList]
  constructor
  · rintro ⟨front, back, rfl, hfree, hback⟩
    -- the word is the name with what stands in front of it from the last blank on
    obtain ⟨first, pre, rfl, hpre, hfirst⟩ := exists_suffix (fun c => !isBlank c) front
    simp only [Bool.not_eq_true', Bool.not_eq_false'] at hpre hfirst
    have hword : ∀ c ∈ pre ++ baseClass.toList, isBlank c = false := fun c hc =>
      (List.mem_append.mp hc).elim (hpre c) fun hc => (baseClass_plain c hc).1
    refine ⟨pre ++ baseClass.toList, ?_, ?_⟩
    · rw [List.append_assoc first]
      exact getLast?_blankSplit hfirst (List.append_ne_nil_of_right_ne_nil _ baseClass_ne_nil)
        hword hback
    · rw [hof, afterLastDot_eq_iff]
      refine ⟨fun hdot => (baseClass_plain '.' hdot).2 rfl, pre, rfl, fun c hc => ?_⟩
      have hlast : (first ++ pre).getLast? = some c := by
        rw [List.getLast?_append, Option.mem_def.mp hc]
        rfl
      have hc := hpre c (List.mem_of_getLast? hc)
      rcases hfree c hlast with hblank | hdot
      · rw [hblank] at hc
        cases hc
      · exact hdot
  · rintro ⟨w, hw, hbase⟩
    rw [hof, afterLastDot_eq_iff] at hbase
    obtain ⟨-, pre, rfl, hpre⟩ := hbase
    by_cases hcs : ∀ c ∈ cs, isBlank c = true
    · rw [blankSplit_eq_nil_iff.mpr hcs] at hw
      cases hw
    · obtain ⟨front, w, back, rfl, hne, hword, hback, hfront⟩ := exists_last_word hcs
      rw [getLast?_blankSplit hfront hne hword hback] at hw
      obtain rfl := Option.some.inj hw
      refine ⟨front ++ pre, back, by simp only [List.append_assoc], ?_, hback⟩
      intro c hc
      rw [List.getLast?_append] at hc
      cases hlast : pre.getLast? with
      | none =>
        rw [hlast] at hc
        exact .inl (hfront c hc)
      | some d =>
        rw [hlast] at hc
        obtain rfl := Option.some.inj hc
        exact .inr (hpre d hlast)

/-- A class is judged to extend the base class if the text of its superclass clause ends in the
name. -/
theorem extendsBase_iff : extendsBase source n = true ↔
    ∃ clause ∈ n.childOf? .superclass, EndsInBase (clause.text source).toList := by
  simp only [endsInBase_iff]
  unfold extendsBase
  cases n.childOf? .superclass with
  | none => simp
  | some clause =>
    simp only [Option.mem_def, Option.some.injEq, exists_eq_left']
    cases (blankSplit (clause.text source).toList).getLast? <;> simp

/-- A text that ends in a token without blanks and dots, which does not go on with a word in front
of it, ends in the name of the base class exactly if the token is this name and stands free. -/
theorem endsInBase_append {tok : List Char} (hne : tok ≠ [])
    (hplain : ∀ c ∈ tok, isBlank c = false ∧ c ≠ '.')
    (hwhole : ∀ c ∈ front.getLast?, ∀ d ∈ tok.head?, ¬(c.isAlpha = true ∧ d.isAlpha = true)) :
    EndsInBase (front ++ tok) ↔ tok = baseClass.toList ∧ Free front := by
  constructor
  · rintro ⟨first, back, heq, hfree, hback⟩
    -- there are no blanks behind the name, for the token is behind them
    have hnone : back = [] := by
      rcases List.eq_nil_or_concat back with rfl | ⟨rest, b, rfl⟩
      · rfl
      · have hlast := congrArg List.getLast? heq
        rw [List.concat_eq_append, ← List.append_assoc, List.getLast?_concat,
          List.getLast?_append_of_ne_nil _ hne] at hlast
        have hb := hback b (by simp)
        rw [(hplain b (List.mem_of_getLast? hlast)).1] at hb
        cases hb
    rw [hnone, List.append_nil] at heq
    rcases List.append_eq_append_iff.mp heq with ⟨x, rfl, htok⟩ | ⟨x, rfl, hname⟩
    · -- the token has the name at its end, and nothing in front of it that could be free
      rcases List.eq_nil_or_concat x with rfl | ⟨more, d, rfl⟩
      · rw [List.append_nil] at hfree
        exact ⟨htok, hfree⟩
      · rw [List.concat_eq_append] at htok hfree
        have hd : d ∈ tok := by
          rw [htok]
          simp
        rcases hfree d (by rw [← List.append_assoc]; exact List.getLast?_concat) with hblank | hdot
        · rw [(hplain d hd).1] at hblank
          cases hblank
        · exact absurd hdot (hplain d hd).2
    · -- or the name goes on with the token, in the middle of a word
      rcases List.eq_nil_or_concat x with rfl | ⟨more, d, rfl⟩
      · rw [List.nil_append] at hname
        rw [List.append_nil]
        exact ⟨hname.symm, hfree⟩
      · rw [List.concat_eq_append] at hname hwhole
        obtain ⟨e, rest, rfl⟩ := List.exists_cons_of_ne_nil hne
        refine absurd ⟨baseClass_letters d ?_, baseClass_letters e ?_⟩ (hwhole d ?_ e rfl)
        · rw [← List.append_assoc]
          exact List.getLast?_concat
        · rw [hname]
          simp
        · rw [hname]
          simp
  · rintro ⟨rfl, hfree⟩
    exact ⟨front, [], by rw [List.append_nil], hfree, nofun⟩

end Sketch

namespace Text.Utf8

variable {t : String} {i j k : Nat}

theorem exists_encode_eq_slice (hi : IsBoundary (encode t) i) (hj : IsBoundary (encode t) j) :
    ∃ u, Edit.slice (encode t) i j = encode u := by
  have hback : ∀ b ∈ ((encode t).drop j).head?, ¬Continues b := by
    rw [List.head?_drop]
    exact hj.2
  -- cut at the second place, and what is in front of it at the first one
  obtain ⟨⟨u, hu⟩, -⟩ := exists_encode_of_append (List.take_append_drop j (encode t)).symm hback
  have hfront : ∀ b ∈ ((encode u).drop i).head?, ¬Continues b := by
    rw [← hu, List.head?_drop, List.getElem?_take]
    intro b hb
    split_ifs at hb
    · exact hi.2 b hb
    · cases hb
  obtain ⟨-, v, hv⟩ := exists_encode_of_append (List.take_append_drop i (encode u)).symm hfront
  refine ⟨v, ?_⟩
  rw [← hv, ← hu, List.drop_take]
  rfl

theorem decodeLossy_slice (hi : IsBoundary (encode t) i) (hj : IsBoundary (encode t) j)
    (hk : IsBoundary (encode t) k) (hij : i ≤ j) (hjk : j ≤ k) :
    decodeLossy (Edit.slice (encode t) i k) =
      decodeLossy (Edit.slice (encode t) i j) ++ decodeLossy (Edit.slice (encode t) j k) := by
  have hparts : Edit.slice (encode t) i k =
      Edit.slice (encode t) i j ++ Edit.slice (encode t) j k := by
    unfold Edit.slice
    rw [show k - i = (j - i) + (k - j) by omega, List.take_add, List.drop_drop,
      show i + (j - i) = j by omega]
  obtain ⟨u, hu⟩ := exists_encode_eq_slice hi hj
  obtain ⟨v, hv⟩ := exists_encode_eq_slice hj hk
  rw [hparts, hu, hv, ← encode_append, decodeLossy_encode, decodeLossy_encode, decodeLossy_encode]

end Text.Utf8

namespace Syntax.Node

def lastToken (n : Node) : Node := (subtrees n).getLastD n

def textBefore (source : Bytes) (n : Node) : String :=
  decodeLossy (Edit.slice source n.start n.lastToken.start)

theorem lastToken_mem_subtrees (n : Node) : n.lastToken ∈ subtrees n := by
  have hne : subtrees n ≠ [] := List.ne_nil_of_mem (self_mem_subtrees n)
  rw [lastToken, List.getLastD_eq_getLast?, List.getLast?_eq_some_getLast hne]
  exact List.getLast_mem hne

end Syntax.Node

namespace Sketch

variable {source : Bytes} {clause : Node}

/-- The last name of a superclass clause is that of the base class. It is the token at the end,
where the arguments of the type would be if there were any. -/
def NamesBase (source : Bytes) (clause : Node) : Prop := clause.lastToken.text source = baseClass

instance (source : Bytes) (clause : Node) : Decidable (NamesBase source clause) :=
  inferInstanceAs (Decidable (_ = _))

/-- What the grammar says of a superclass clause: it begins with its keyword and ends with a token,
which has no blanks or dots in it and does not go on with a word in front of it. -/
structure Spelled (source : Bytes) (clause : Node) : Prop where
  opened : ∃ c ∈ clause.children.head?, c.start = clause.start ∧ c.text source = "extends"
  closed : clause.lastToken.stop = clause.stop
  plain : (clause.lastToken.text source).toList.all isPlain = true
  whole : ((clause.textBefore source).toList.getLast?.any Char.isAlpha &&
    (clause.lastToken.text source).toList.head?.any Char.isAlpha) = false

instance (source : Bytes) (clause : Node) : Decidable (Spelled source clause) :=
  decidable_of_iff
    ((∃ c ∈ clause.children.head?, c.start = clause.start ∧ c.text source = "extends") ∧
      clause.lastToken.stop = clause.stop ∧
      (clause.lastToken.text source).toList.all isPlain = true ∧
      ((clause.textBefore source).toList.getLast?.any Char.isAlpha &&
        (clause.lastToken.text source).toList.head?.any Char.isAlpha) = false)
    ⟨fun ⟨hopened, hclosed, hplain, hwhole⟩ => ⟨hopened, hclosed, hplain, hwhole⟩,
      fun h => ⟨h.opened, h.closed, h.plain, h.whole⟩⟩

theorem Spelled.plain_of_mem (h : Spelled source clause) :
    ∀ c ∈ (clause.lastToken.text source).toList, isBlank c = false ∧ c ≠ '.' :=
  fun c hc => isPlain_iff.mp (List.all_eq_true.mp h.plain c hc)

theorem Spelled.not_letters (h : Spelled source clause) :
    ∀ c ∈ (clause.textBefore source).toList.getLast?,
      ∀ d ∈ (clause.lastToken.text source).toList.head?,
        ¬(c.isAlpha = true ∧ d.isAlpha = true) := by
  intro c hc d hd hletters
  have hwhole := h.whole
  rw [Option.mem_def.mp hc, Option.mem_def.mp hd, Option.any_some, Option.any_some, hletters.1,
    hletters.2] at hwhole
  cases hwhole

variable {t : String}

theorem text_eq_append (h : WellPlaced (IsBoundary (encode t)) n)
    (hlined : n.lastToken.start ≤ n.lastToken.stop) (hclosed : n.lastToken.stop = n.stop) :
    n.text (encode t) = n.textBefore (encode t) ++ n.lastToken.text (encode t) := by
  have hlast := n.lastToken_mem_subtrees
  have hsplit := decodeLossy_slice (h.places n (self_mem_subtrees n)).1 (h.places _ hlast).1
    (h.places _ hlast).2 (h.inOrder.within_of_mem hlast).1 hlined
  rw [hclosed] at hsplit
  rw [Node.text, Node.textBefore, Node.text, hclosed]
  exact hsplit

theorem blankSplit_text_ne_nil (h : WellPlaced (IsBoundary (encode t)) clause)
    (hlined : ∀ m ∈ subtrees clause, m.start ≤ m.stop) (hs : Spelled (encode t) clause) :
    blankSplit (clause.text (encode t)).toList ≠ [] := by
  obtain ⟨c, hc, hstart, htext⟩ := hs.opened
  have hchild : c ∈ clause.children := List.mem_of_head? hc
  have hmem : c ∈ subtrees clause := subtrees_subset hchild (self_mem_subtrees c)
  have hself := h.places clause (self_mem_subtrees clause)
  have hsplit := decodeLossy_slice (h.places c hmem).1 (h.places c hmem).2 hself.2 (hlined c hmem)
    (h.inOrder.within_of_mem hmem).2
  have hparts : clause.text (encode t) =
      "extends" ++ decodeLossy (Edit.slice (encode t) c.stop clause.stop) := by
    rw [← htext, Node.text, ← hstart]
    exact hsplit
  have hletter : 'e' ∈ (clause.text (encode t)).toList := by
    rw [hparts, String.toList_append]
    exact List.mem_append_left _ (by decide)
  exact fun hnil => absurd (blankSplit_eq_nil_iff.mp hnil 'e' hletter) (by decide)

/-- The judgment of a class is that of the last name of its superclass if nothing but a blank or a
dot stands in front of a base class named last, and only then, unless the last name is missing. -/
theorem extendsBase_iff_namesBase (h : WellPlaced (IsBoundary (encode t)) clause)
    (hlined : ∀ m ∈ subtrees clause, m.start ≤ m.stop) (hs : Spelled (encode t) clause)
    (hclause : n.childOf? .superclass = some clause) :
    (extendsBase (encode t) n = true ↔ NamesBase (encode t) clause) ↔
      (NamesBase (encode t) clause → Free (clause.textBefore (encode t)).toList) ∧
      (clause.lastToken.text (encode t) = "" →
        ¬EndsInBase (clause.textBefore (encode t)).toList) := by
  have hends : extendsBase (encode t) n = true ↔ EndsInBase
      ((clause.textBefore (encode t)).toList ++ (clause.lastToken.text (encode t)).toList) := by
    rw [extendsBase_iff, hclause, ← String.toList_append, ← text_eq_append h
      (hlined _ clause.lastToken_mem_subtrees) hs.closed]
    simp
  rw [hends, NamesBase]
  -- a token that is missing names nothing, and then the text is all that is in front of it
  by_cases hmissing : clause.lastToken.text (encode t) = ""
  · have hname : ¬"" = baseClass := by decide
    simp [hmissing, hname]
  · have hne : (clause.lastToken.text (encode t)).toList ≠ [] :=
      fun hnil => hmissing (String.toList_eq_nil_iff.mp hnil)
    rw [endsInBase_append hne hs.plain_of_mem hs.not_letters, String.toList_inj]
    simp only [hmissing, false_imp_iff, and_true]
    constructor
    · exact fun hiff hname => (hiff.mpr hname).2
    · exact fun hfree => ⟨And.left, fun hname => ⟨hname, hfree hname⟩⟩

theorem detectMode_eq_java_iff {root : Node} :
    detectMode source root = .java ↔ ∃ n ∈ root.children, IsOwnClass source n := by
  have hfound : (findSketchClass? source root).isSome = true ↔
      ∃ n ∈ root.children, IsOwnClass source n := by
    rw [findSketchClass?, List.find?_isSome]
    constructor
    · rintro ⟨n, hn, hown⟩
      obtain ⟨hnamed, -⟩ := List.mem_filter.mp hn
      obtain ⟨hchild, hnamed⟩ := List.mem_filter.mp hnamed
      rw [Bool.and_eq_true, decide_eq_true_eq] at hown
      exact ⟨n, hchild, hnamed, hown⟩
    · rintro ⟨n, hchild, hnamed, hkind, hextends⟩
      refine ⟨n, List.mem_filter.mpr ⟨List.mem_filter.mpr ⟨hchild, hnamed⟩, ?_⟩, ?_⟩
      · simp [Node.isComment, Node.isPreamble, hkind]
      · simp [hkind, hextends]
  rw [← hfound, detectMode]
  split_ifs with hsome hmethod <;> simp [hsome]

end Sketch

open Sketch

/-- A class at the top counts as the class of a sketch if its superclass clause ends in the name of
the base class. This is so for the clauses whose last name is that of the base class, and for no
others, exactly if a blank or a dot stands in front of this name and no such name in front of one
that is missing. A sketch that is not read inside another class is one of its own if a class
counts. -/
theorem class_counts_iff_named (t : String) :
    (∀ n ∈ (Node.parse (encode t)).1.children, n.kind = "class_declaration" →
      (extendsBase (encode t) n = true ↔
        ∃ clause ∈ n.childOf? .superclass, EndsInBase (clause.text (encode t)).toList) ∧
      ∀ clause ∈ n.childOf? .superclass, Spelled (encode t) clause →
        blankSplit (clause.text (encode t)).toList ≠ [] ∧
        ((extendsBase (encode t) n = true ↔ NamesBase (encode t) clause) ↔
          (NamesBase (encode t) clause → Free (clause.textBefore (encode t)).toList) ∧
          (clause.lastToken.text (encode t) = "" →
            ¬EndsInBase (clause.textBefore (encode t)).toList))) ∧
    ((Sketch.read (encode t)).isWrapped = false →
      ((Sketch.read (encode t)).mode = .java ↔
        ∃ n ∈ (Node.parse (encode t)).1.children, IsOwnClass (encode t) n)) := by
  refine ⟨fun n hn _ => ⟨extendsBase_iff, fun clause hclause hs => ?_⟩, fun hw => ?_⟩
  · have hchild : clause ∈ n.children := List.mem_of_find?_eq_some hclause
    have hplaced := ((wellPlaced_parse_encode t).child hn).child hchild
    have hlined : ∀ m ∈ subtrees clause, m.start ≤ m.stop := fun m hm =>
      (Node.counted_parse _ m (subtrees_subset hn (subtrees_subset hchild hm))).2
    exact ⟨blankSplit_text_ne_nil hplaced hlined hs,
      extendsBase_iff_namesBase hplaced hlined hs hclause⟩
  · obtain ⟨hroot, hplain, -⟩ := root_read (encode t)
    rw [mode_read hw, hroot, (hplain hw).1]
    exact detectMode_eq_java_iff

/-- A base class with a name of several parts. -/
theorem class_counts_iff_named_dotted :
    let source := encode "class A extends a.PApplet{}"
    (∃ n ∈ (Node.parse source).1.children, n.kind = "class_declaration" ∧
      ∃ clause ∈ n.childOf? .superclass, Spelled source clause ∧ NamesBase source clause ∧
        blankSplit (clause.text source).toList ≠ [] ∧ extendsBase source n = true) ∧
    (Sketch.read source).isWrapped = false ∧ (Sketch.read source).mode = .java := by
  intro source
  have hrun : (∃ n ∈ (Node.parse source).1.children, n.isNamed = true ∧
      n.kind = "class_declaration" ∧ ∃ clause ∈ n.childOf? .superclass, Spelled source clause ∧
        NamesBase source clause ∧ (clause.textBefore source).toList.getLast? = some '.' ∧
        clause.lastToken.text source ≠ "") ∧ (Sketch.read source).isWrapped = false := by
    decide +kernel
  obtain ⟨⟨n, hn, hnamed, hkind, clause, hclause, hs, hname, hdot, hthere⟩, hw⟩ := hrun
  obtain ⟨hclasses, hmode⟩ := class_counts_iff_named "class A extends a.PApplet{}"
  obtain ⟨hwords, hjudged⟩ := (hclasses n hn hkind).2 clause hclause hs
  have hfree : Free (clause.textBefore source).toList := by
    intro c hc
    rw [hdot] at hc
    exact .inr (Option.some.inj hc).symm
  have hextends := (hjudged.mpr ⟨fun _ => hfree, fun hmissing => absurd hmissing hthere⟩).mpr hname
  exact ⟨⟨n, hn, hkind, clause, hclause, hs, hname, hwords, hextends⟩, hw,
    (hmode hw).mpr ⟨n, hn, hnamed, hkind, hextends⟩⟩

def commentedBase : Bytes :=
  encode "class A extends processing.core./* base */PApplet \x7b\n\x7d\n"

def annotatedBase : Bytes := encode "class A extends @a.PApplet{}"

/-- A comment in front of the name hides it; and where the superclass has no name, that of an
annotation is taken for it. -/
theorem superclass_misjudged :
    ((Sketch.read commentedBase).mode = .static ∧
      ∃ n ∈ (Node.parse commentedBase).1.children, n.kind = "class_declaration" ∧
        extendsBase commentedBase n = false ∧
        ∃ clause ∈ n.childOf? .superclass, NamesBase commentedBase clause) ∧
    (Sketch.read annotatedBase).mode = .java ∧
      ∃ n ∈ (Node.parse annotatedBase).1.children, n.kind = "class_declaration" ∧
        extendsBase annotatedBase n = true ∧
        ∃ clause ∈ n.childOf? .superclass, ¬NamesBase annotatedBase clause := by
  decide +kernel

end Sketchbook
