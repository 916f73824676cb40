import Mathlib.Algebra.BigOperators.Group.List.Basic
import Mathlib.Algebra.GroupWithZero.Nat
import Sketchbook.Proofs.Spacing

namespace Sketchbook

open Sketchbook.Text Sketchbook.Settings Sketchbook.Editing

def lineBreaks (s : Bytes) : Nat := s.count 10

@[simp] theorem lineBreaks_append (s t : Bytes) :
    lineBreaks (s ++ t) = lineBreaks s + lineBreaks t := List.count_append

theorem lineBreaks_eq_zero {s : Bytes} (h : ∀ b ∈ s, 128 ≤ b.toNat) : lineBreaks s = 0 := by
  apply List.count_eq_zero.mpr
  intro hmem
  have := h 10 hmem
  exact absurd this (by decide)

theorem toNat_ofNat_of_lt {n : Nat} (h : n < 256) : (UInt8.ofNat n).toNat = n := by
  rw [UInt8.toNat_ofNat']
  exact Nat.mod_eq_of_lt h

theorem lineBreaks_encodeChar (c : Char) :
    lineBreaks (String.utf8EncodeChar c) = if c = '\n' then 1 else 0 := by
  have hc : c = '\n' ↔ c.val.toNat = 10 := by
    constructor
    · rintro rfl
      rfl
    · intro h
      apply Char.ext
      exact UInt32.toNat_inj.mp h
  by_cases hv : c.val.toNat ≤ 127
  · have hone : String.utf8EncodeChar c = [UInt8.ofNat c.val.toNat] := by
      rw [String.utf8EncodeChar, if_pos hv]
    have hten : UInt8.ofNat c.val.toNat = 10 ↔ c.val.toNat = 10 := by
      rw [← UInt8.toNat_inj, toNat_ofNat_of_lt (by omega)]
      rfl
    rw [hone, lineBreaks, List.count_singleton]
    simp only [beq_iff_eq, hten, hc]
  · -- of several bytes each has its highest bit set
    have hne : c ≠ '\n' := by
      rw [ne_eq, hc]
      omega
    rw [if_neg hne]
    apply lineBreaks_eq_zero
    intro b hb
    have hmax := UInt32.toNat_lt c.val
    simp only [String.utf8EncodeChar, if_neg hv] at hb
    split_ifs at hb
    all_goals
      simp only [List.mem_cons, List.not_mem_nil, or_false] at hb
      rcases hb with rfl | rfl | rfl | rfl
    all_goals
      rw [toNat_ofNat_of_lt (by omega)]
      omega

theorem lineBreaks_encode (t : String) : lineBreaks (Utf8.encode t) = t.toList.count '\n' := by
  have hchars (cs : List Char) :
      lineBreaks (cs.flatMap String.utf8EncodeChar) = cs.count '\n' := by
    induction cs with
    | nil => rfl
    | cons c cs ih =>
      rw [List.flatMap_cons, lineBreaks_append, lineBreaks_encodeChar, ih, List.count_cons]
      simp only [beq_iff_eq]
      omega
  conv_lhs => rw [← String.ofList_toList (s := t)]
  rw [Utf8.encode_ofList, hchars]

theorem lineBreaks_encode_eq_zero {t : String} (h : '\n' ∉ t.toList) :
    lineBreaks (Utf8.encode t) = 0 := by
  rw [lineBreaks_encode]
  exact List.count_eq_zero.mpr h

namespace Editing.Edit

def total (μ : Bytes → Nat) (es : List Edit) : Nat := (es.map fun e => μ (Utf8.encode e.text)).sum

/-- The place of a byte of a text once edits are made: it is moved by all that is inserted in front
of it. -/
def image (es : List Edit) (i : Nat) : Nat :=
  i + total List.length (es.filter fun e => e.position ≤ i)

theorem total_filter_of_or (μ : Bytes → Nat) {P Q R : Edit → Bool} {es : List Edit}
    (hor : ∀ e ∈ es, P e = (Q e || R e)) (hand : ∀ e ∈ es, (Q e && R e) = false) :
    total μ (es.filter P) = total μ (es.filter Q) + total μ (es.filter R) := by
  unfold total
  induction es with
  | nil => rfl
  | cons e es ih =>
    have hrest := ih (fun x hx => hor x (List.mem_cons_of_mem _ hx))
      fun x hx => hand x (List.mem_cons_of_mem _ hx)
    have hP := hor e List.mem_cons_self
    have hQR := hand e List.mem_cons_self
    cases hQ : Q e <;> cases hR : R e
    all_goals
      rw [hQ, hR] at hP hQR
      simp only [List.filter_cons, hP, hQ, hR]
    · exact hrest
    · simp [hrest]
      omega
    · simp [hrest]
      omega
    · cases hQR

section Measure

variable {μ : Bytes → Nat} (h0 : μ [] = 0) (hadd : ∀ s t, μ (s ++ t) = μ s + μ t)

include h0 hadd

theorem measure_flatMap (es : List Edit) :
    μ (es.flatMap fun e => Utf8.encode e.text) = total μ es := by
  induction es with
  | nil => exact h0
  | cons e es ih =>
    rw [List.flatMap_cons, hadd, ih]
    rfl

theorem measure_textsAt (es : List Edit) (p : Nat) :
    μ (textsAt es p) = total μ (es.filter fun e => e.position = p) := by
  rw [textsAt, List.flatMap_append, hadd, measure_flatMap h0 hadd, measure_flatMap h0 hadd]
  symm
  apply total_filter_of_or
  · intro e _
    cases hs : e.side <;> simp [isAt, hs]
  · intro e _
    cases hs : e.side <;> simp [isAt, hs]

theorem measure_copy (es : List Edit) (p : Nat) (xs : Bytes) :
    μ (copy es p xs ++ textsAt es (p + xs.length)) =
      μ xs + total μ (es.filter fun e => p ≤ e.position ∧ e.position ≤ (p + xs.length : Nat)) := by
  induction xs generalizing p with
  | nil =>
    rw [copy, List.nil_append, measure_textsAt h0 hadd, h0, Nat.zero_add]
    congr 1
    apply List.filter_congr
    intro e _
    rw [decide_eq_decide]
    simp only [List.length_nil]
    omega
  | cons b xs ih =>
    have hplace : p + (b :: xs).length = p + 1 + xs.length := by
      rw [List.length_cons]
      omega
    -- the edits in front of the first byte, and those behind it
    have hsplit : total μ (es.filter fun e => p ≤ e.position ∧
          e.position ≤ (p + 1 + xs.length : Nat)) =
        total μ (es.filter fun e => e.position = p) +
          total μ (es.filter fun e => (p + 1 : Nat) ≤ e.position ∧
            e.position ≤ (p + 1 + xs.length : Nat)) := by
      apply total_filter_of_or
      · intro e _
        rw [← Bool.decide_or, decide_eq_decide]
        omega
      · intro e _
        rw [← Bool.decide_and, decide_eq_false_iff_not]
        omega
    have hrest := ih (p + 1)
    rw [hadd] at hrest
    have hb : μ (b :: copy es (p + 1) xs) = μ [b] + μ (copy es (p + 1) xs) := hadd [b] _
    have hbs : μ (b :: xs) = μ [b] + μ xs := hadd [b] xs
    rw [hplace, copy, hadd, hadd, hb, measure_textsAt h0 hadd es p, hsplit, hbs]
    omega

end Measure

/-- The image of a byte is that byte, and in front of it stand what stands in front of the byte and
all that is inserted up to it. -/
theorem merge_image {es : List Edit} {source : Bytes} {i : Nat} (hi : i < source.length)
    (hes : ∀ e ∈ es, 0 ≤ e.position) :
    (merge es source)[image es i]? = source[i]? ∧
      lineBreaks ((merge es source).take (image es i)) = lineBreaks (source.take i) +
        total lineBreaks (es.filter fun e => e.position ≤ i) := by
  have htake : 0 + (source.take i).length = i := by
    rw [List.length_take]
    omega
  have hfilter : (es.filter fun e => ((0 : Nat) : Int) ≤ e.position ∧ e.position ≤ (i : Int)) =
      es.filter fun e => e.position ≤ (i : Int) := by
    apply List.filter_congr
    intro e he
    have hlow := hes e he
    rw [decide_eq_decide]
    omega
  -- all that stands in front of the byte, whose length and lines are counted alike
  obtain ⟨front, hfront⟩ : ∃ front, front = copy es 0 (source.take i) ++ textsAt es i := ⟨_, rfl⟩
  have hmeasure {μ : Bytes → Nat} (h0 : μ [] = 0) (hadd : ∀ s t, μ (s ++ t) = μ s + μ t) :
      μ front = μ (source.take i) + total μ (es.filter fun e => e.position ≤ i) := by
    have hcopy := measure_copy h0 hadd es 0 (source.take i)
    rw [htake, hfilter] at hcopy
    rw [hfront, hcopy]
  have hlength : front.length = image es i := by
    have := hmeasure (μ := List.length) rfl fun s t => List.length_append
    rw [List.length_take, Nat.min_eq_left (Nat.le_of_lt hi)] at this
    exact this
  have hmerge : merge es source = front ++ source[i] :: (copy es (i + 1) (source.drop (i + 1)) ++
      textsAt es source.length) := by
    have hsource : source = source.take i ++ source[i] :: source.drop (i + 1) := by
      rw [← List.drop_eq_getElem_cons hi, List.take_append_drop]
    have hcopy := copy_append es 0 (source.take i) (source[i] :: source.drop (i + 1))
    rw [← hsource, htake, copy] at hcopy
    rw [merge, hcopy, hfront]
    simp only [List.append_assoc, List.cons_append]
  rw [hmerge, ← hlength]
  constructor
  · rw [List.getElem?_append_right (Nat.le_refl _), Nat.sub_self, List.getElem?_cons_zero,
      List.getElem?_eq_getElem hi]
  · rw [List.take_left]
    exact hmeasure rfl lineBreaks_append

end Editing.Edit

def breaksOf (ts : List String) : Nat := (ts.map fun t => lineBreaks (Utf8.encode t)).sum

@[simp] theorem breaksOf_append (ts us : List String) :
    breaksOf (ts ++ us) = breaksOf ts + breaksOf us := by
  rw [breaksOf, List.map_append, List.sum_append]
  rfl

theorem breaksOf_eq_zero {ts : List String} (h : ∀ t ∈ ts, '\n' ∉ t.toList) : breaksOf ts = 0 := by
  apply List.sum_eq_zero
  intro n hn
  obtain ⟨t, ht, rfl⟩ := List.mem_map.mp hn
  exact lineBreaks_encode_eq_zero (h t ht)

theorem lineBreaks_lines {ts : List String} (h : ts ≠ []) :
    lineBreaks (Utf8.encode ("\n".intercalate ts ++ "\n")) = ts.length + breaksOf ts := by
  have hone : lineBreaks (Utf8.encode "\n") = 1 := by decide
  rw [Utf8.encode_append, lineBreaks_append, hone]
  induction ts with
  | nil => exact absurd rfl h
  | cons t ts ih =>
    cases ts with
    | nil =>
      simp only [String.intercalate_singleton, breaksOf, List.map_cons, List.map_nil,
        List.sum_cons, List.sum_nil, List.length_cons, List.length_nil]
      omega
    | cons u ts =>
      have hrest := ih (List.cons_ne_nil u ts)
      rw [String.intercalate_cons_cons, Utf8.encode_append, Utf8.encode_append, lineBreaks_append,
        lineBreaks_append, hone]
      have hcons : breaksOf (t :: u :: ts) = lineBreaks (Utf8.encode t) + breaksOf (u :: ts) := rfl
      rw [hcons, List.length_cons]
      omega

theorem not_mem_of_isValid {name : String} (h : ClassName.isValid name = true) :
    '\n' ∉ name.toList := by
  unfold ClassName.isValid at h
  cases hcs : name.toList with
  | nil => exact List.not_mem_nil
  | cons c cs =>
    rw [hcs] at h
    simp only [Bool.and_eq_true, List.all_eq_true] at h
    intro hmem
    rcases List.mem_cons.mp hmem with rfl | hmem
    · exact absurd h.1 (by decide)
    · exact absurd (h.2 _ hmem) (by decide)

namespace Generate

def front (c : Config) (name package : String) (s : Sketch) : Bytes :=
  Utf8.encode ("\n".intercalate (header c name package s) ++ "\n")

def movedBreaks (s : Sketch) : Nat :=
  if s.mode = .java then 0 else breaksOf (s.imports.map (·.text))

variable {c : Config} {name package : String} {s : Sketch}

theorem lineBreaks_front (hname : ClassName.isValid name = true) (hpackage : '\n' ∉ package.toList)
    (himports : ∀ i ∈ c.imports, '\n' ∉ i.toList) :
    lineBreaks (front c name package s) = (header c name package s).length + movedBreaks s := by
  have hne : header c name package s ≠ [] := by
    unfold header
    simp
  rw [front, lineBreaks_lines hne]
  congr 1
  -- of the parts of the header only imports of the sketch may have line breaks
  have hfirst : breaksOf [preamble, "package " ++ package ++ ";", ""] = 0 := by
    apply breaksOf_eq_zero
    intro t ht
    simp only [List.mem_cons, List.not_mem_nil, or_false] at ht
    rcases ht with rfl | rfl | rfl
    · decide
    · simpa using hpackage
    · simp
  have hsecond : breaksOf (c.imports.map fun i => "import " ++ i ++ ";") = 0 := by
    apply breaksOf_eq_zero
    intro t ht
    obtain ⟨i, hi, rfl⟩ := List.mem_map.mp ht
    simpa using himports i hi
  have hempty : breaksOf [""] = 0 := by decide
  have hclass : breaksOf (if s.mode = .java then []
      else ["public class " ++ name ++ " extends PApplet \x7b"]) = 0 := by
    apply breaksOf_eq_zero
    intro t ht
    split_ifs at ht
    · cases ht
    · rw [List.mem_singleton.mp ht]
      simpa using not_mem_of_isValid hname
  have hsetup : breaksOf (if s.mode = .static then [pad c 1 ++ "public void setup() \x7b"]
      else []) = 0 := by
    apply breaksOf_eq_zero
    intro t ht
    split_ifs at ht
    · rw [List.mem_singleton.mp ht]
      simp [pad]
    · cases ht
  rw [header, breaksOf_append, breaksOf_append, breaksOf_append, breaksOf_append, breaksOf_append,
    hfirst, hsecond, hempty, hclass, hsetup, movedBreaks]
  split_ifs
  · rfl
  · omega

theorem movedBreaks_eq_zero_iff :
    movedBreaks s = 0 ↔ (s.mode ≠ .java → ∀ i ∈ s.imports, '\n' ∉ i.text.toList) := by
  unfold movedBreaks breaksOf
  split_ifs with hj
  · simp [hj]
  · rw [List.sum_eq_zero_iff_forall_eq_nat]
    constructor
    · intro h _ i hi
      have hzero := h _ (List.mem_map_of_mem (List.mem_map_of_mem hi))
      rw [lineBreaks_encode] at hzero
      exact List.count_eq_zero.mp hzero
    · intro h n hn
      obtain ⟨t, ht, rfl⟩ := List.mem_map.mp hn
      obtain ⟨i, hi, rfl⟩ := List.mem_map.mp ht
      exact lineBreaks_encode_eq_zero (h hj i hi)

end Generate

theorem not_mem_of_mem_wraps {s : Sketch} {entryMethod : String} {w : Wrap}
    (hw : w ∈ wraps s entryMethod) : ∀ e ∈ w.edits, '\n' ∉ e.text.toList := by
  have htexts : w.opener ∈ [Edit.commentOpen, Generate.movedOpen] ∧
      w.closer ∈ [Edit.commentClose, Generate.movedClose] := by
    unfold wraps at hw
    rcases List.mem_append.mp hw with hw | hw
    · obtain ⟨x, -, rfl⟩ := List.mem_map.mp hw
      exact ⟨List.mem_cons_self, List.mem_cons_self⟩
    · split_ifs at hw
      · cases hw
      · obtain ⟨i, -, rfl⟩ := List.mem_map.mp hw
        exact ⟨List.mem_cons_of_mem _ List.mem_cons_self,
          List.mem_cons_of_mem _ List.mem_cons_self⟩
  have hopeners : ∀ t ∈ [Edit.commentOpen, Generate.movedOpen], '\n' ∉ t.toList := by
    decide
  have hclosers : ∀ t ∈ [Edit.commentClose, Generate.movedClose], '\n' ∉ t.toList := by
    decide
  intro e he
  rw [Wrap.edits, List.mem_cons, List.mem_singleton] at he
  rcases he with rfl | rfl
  · exact hopeners _ htexts.1
  · exact hclosers _ htexts.2

/-- In front of the image of a byte there are as many line breaks as the result says, and those in
front of the byte, and those of the imports that are moved. So the result is right exactly if every
moved import stands on one line. In a class of the sketch's own this is said of the bytes in front
of the brace that closes it. -/
theorem lineBreaks_image (source : Bytes) (name : String) (package? : Option String) (c : Config)
    (g : Generated) (h : generate source name package? c = .ok g)
    (hpackage : '\n' ∉ (Generate.packageOf package? c).toList)
    (himports : ∀ i ∈ c.imports, '\n' ∉ i.toList) (i : Nat) (hi : i < source.length)
    (hbrace : (Sketch.read source).mode = .java → ∀ body brace,
      (Sketch.read source).classBody? = some body → Generate.closingBrace? body = some brace →
        (i : Int) < (Sketch.read source).ownOffset brace.start) :
    let s := Sketch.read source
    let code := Utf8.encode g.code
    let image := (Generate.front c name (Generate.packageOf package? c) s).length +
      Edit.image g.edits i
    code[image]? = source[i]? ∧
      lineBreaks (code.take image) =
        g.lineOffset + Generate.movedBreaks s + lineBreaks (source.take i) ∧
      (lineBreaks (code.take image) = g.lineOffset + lineBreaks (source.take i) ↔
        (s.mode ≠ .java → ∀ m ∈ s.imports, '\n' ∉ m.text.toList)) := by
  intro s code image
  obtain ⟨hname, -, log, hrun⟩ := generate_eq_ok h
  obtain ⟨found, body, -, hrender, -, hcode, -, hoffset, -⟩ := assemble_eq_ok hrun
  obtain ⟨hbody, hinside⟩ := encode_render hrender
  obtain ⟨hat, hbreaks⟩ := Edit.merge_image hi fun e he => (hinside e he).1
  -- no edit up to the byte ends a line: members are added further down
  have hedits : Edit.total lineBreaks (g.edits.filter fun e => e.position ≤ i) = 0 := by
    apply List.sum_eq_zero
    intro n hn
    obtain ⟨e, he, rfl⟩ := List.mem_map.mp hn
    obtain ⟨he, hle⟩ := List.mem_filter.mp he
    have hle : e.position ≤ i := of_decide_eq_true hle
    apply lineBreaks_encode_eq_zero
    rw [edits_eq hrun, List.mem_append] at he
    rcases he with he | he
    · obtain ⟨w, hw, he⟩ := List.mem_flatMap.mp he
      exact not_mem_of_mem_wraps hw e he
    · split_ifs at he with hj
      · unfold Generate.memberEdits at he
        split at he
        · rename_i cls classBody hcls hclassBody
          split at he
          · rename_i brace hclosing
            dsimp only at he
            split_ifs at he
            · cases he
            · have hlt := hbrace hj classBody brace hclassBody hclosing
              rw [List.mem_singleton.mp he] at hle
              simp only [Edit.insertBefore] at hle
              omega
          · cases he
        · cases he
      · cases he
  have hoffset : g.lineOffset =
      (Generate.header c name (Generate.packageOf package? c) s).length := hoffset
  have hfront : Generate.front c name (Generate.packageOf package? c) s =
      Utf8.encode ("\n".intercalate (Generate.header c name (Generate.packageOf package? c) s) ++
        "\n") := rfl
  have hsplit : code = Generate.front c name (Generate.packageOf package? c) s ++
      (Edit.merge g.edits source ++ Utf8.encode (Generate.closing c name s g.accessors
        (s.methodNames.contains "main"))) := by
    rw [hfront, ← hbody, ← Utf8.encode_append, ← Utf8.encode_append, ← String.append_assoc]
    exact congrArg Utf8.encode hcode
  have hlt : Edit.image g.edits i < (Edit.merge g.edits source).length := by
    rw [List.getElem?_eq_getElem hi] at hat
    exact (List.getElem?_eq_some_iff.mp hat).1
  have hcount : lineBreaks (code.take image) =
      g.lineOffset + Generate.movedBreaks s + lineBreaks (source.take i) := by
    rw [hsplit, List.take_length_add_append, lineBreaks_append,
      List.take_append_of_le_length (Nat.le_of_lt hlt), hbreaks, hedits,
      Generate.lineBreaks_front hname hpackage himports, hoffset]
    omega
  refine ⟨?_, hcount, ?_⟩
  · rw [hsplit, List.getElem?_append_right (Nat.le_add_right _ _), Nat.add_sub_cancel_left,
      List.getElem?_append_left hlt]
    exact hat
  · rw [hcount, ← Generate.movedBreaks_eq_zero_iff]
    omega

/-- The second line of a sketch with an import on its first line is found where the result says. -/
theorem lineBreaks_image_second_line :
    let source := Utf8.encode "import a.b;\n;"
    ∃ g image, generate source "A" none {} = .ok g ∧ 12 < source.length ∧
      (Utf8.encode g.code)[image]? = some 59 ∧
      lineBreaks ((Utf8.encode g.code).take image) = g.lineOffset + 1 := by
  intro source
  have hrun : (Sketch.read source).mode ≠ .java ∧
      (∀ m ∈ (Sketch.read source).imports, '\n' ∉ m.text.toList) ∧
      (generate source "A" none {}).isOk = true := by
    decide +kernel
  obtain ⟨hmode, hmoved, hok⟩ := hrun
  have hpackage : '\n' ∉ (Generate.packageOf none {}).toList := by decide
  have himports : ∀ i ∈ ({} : Config).imports, '\n' ∉ i.toList := by decide
  have hlength : 12 < source.length := by decide
  cases hg : generate source "A" none {} with
  | error e =>
    rw [hg] at hok
    cases hok
  | ok g =>
    obtain ⟨hat, -, hiff⟩ := lineBreaks_image source "A" none {} g hg hpackage himports 12 hlength
      fun hj => absurd hj hmode
    have hbyte : source[12]? = some 59 := by decide
    have hbefore : lineBreaks (source.take 12) = 1 := by decide
    have hcount := hiff.mpr fun _ => hmoved
    rw [hbyte] at hat
    rw [hbefore] at hcount
    exact ⟨g, _, rfl, hlength, hat, hcount⟩

/-- An import that is written on two lines moves the first line of its sketch further down than the
result says. -/
theorem broken_import_shifts_lines :
    let source := Utf8.encode "import a\n.b;"
    ∃ g image, generate source "A" none {} = .ok g ∧
      image = (Generate.front {} "A" (Generate.packageOf none {}) (Sketch.read source)).length +
        Edit.image g.edits 0 ∧
      (Utf8.encode g.code)[image]? = source[0]? ∧
      lineBreaks ((Utf8.encode g.code).take image) ≠
        g.lineOffset + lineBreaks (source.take 0) := by
  intro source
  -- the place gets a name, so that it is not worked out in every goal
  obtain ⟨image, himage⟩ : ∃ image : Generated → Nat, image = fun g =>
    (Generate.front {} "A" (Generate.packageOf none {}) (Sketch.read source)).length +
      Edit.image g.edits 0 := ⟨_, rfl⟩
  have hrun : (generate source "A" none {}).toOption.any (fun g =>
      (Utf8.encode g.code)[image g]? = source[0]? ∧
        lineBreaks ((Utf8.encode g.code).take (image g)) ≠
          g.lineOffset + lineBreaks (source.take 0)) = true := by
    rw [himage]
    decide +kernel
  cases hg : generate source "A" none {} with
  | error e =>
    rw [hg] at hrun
    cases hrun
  | ok g =>
    rw [hg] at hrun
    obtain ⟨hat, hcount⟩ := of_decide_eq_true hrun
    exact ⟨g, image g, rfl, by rw [himage], hat, hcount⟩

end Sketchbook
