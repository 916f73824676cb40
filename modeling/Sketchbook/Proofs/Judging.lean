import Mathlib.Data.List.TakeWhile
import Sketchbook.Proofs.Finding

namespace Sketchbook

open Sketchbook.Settings

namespace Text

/-- A text without the blanks at its ends is left of another one. -/
structure Strips (s t : String) : Prop where
  blanks : ∃ front back, s.toList = front ++ t.toList ++ back ∧
    ∀ c ∈ front ++ back, isBlank c = true
  first : ∀ c ∈ t.toList.head?, isBlank c = false
  last : ∀ c ∈ t.toList.getLast?, isBlank c = false

theorem trimWhile_between {p : Char → Bool} {front cs back : List Char}
    (hfront : ∀ c ∈ front, p c = true) (hback : ∀ c ∈ back, p c = true)
    (hfirst : ∀ c ∈ cs.head?, p c = false) (hlast : ∀ c ∈ cs.getLast?, p c = false) :
    trimWhile p (front ++ cs ++ back) = cs := by
  have hnil : back.dropWhile p = [] := List.dropWhile_eq_nil_iff.mpr hback
  rw [trimWhile, List.append_assoc, List.dropWhile_append_of_pos hfront]
  cases cs with
  | nil => rw [List.nil_append, hnil]; rfl
  | cons c cs =>
    have hc : ¬p c = true := by
      rw [hfirst c rfl]
      exact Bool.false_ne_true
    -- the first character stays, and read backwards the last one does
    rw [List.cons_append, List.dropWhile_cons_of_neg hc, ← List.cons_append, List.reverse_append,
      List.dropWhile_append_of_pos fun d hd => hback d (List.mem_reverse.mp hd)]
    obtain ⟨d, ds, hrev⟩ : ∃ d ds, (c :: cs).reverse = d :: ds :=
      List.exists_cons_of_ne_nil (by simp)
    have hd : ¬p d = true := by
      rw [hlast d (by rw [← List.head?_reverse, hrev]; rfl)]
      exact Bool.false_ne_true
    rw [hrev, List.dropWhile_cons_of_neg hd, ← hrev, List.reverse_reverse]

theorem strips_iff {s t : String} : Strips s t ↔ trim s = t := by
  constructor
  · rintro ⟨⟨front, back, hs, hblank⟩, hfirst, hlast⟩
    rw [trim, hs, trimChars, trimWhile_between
      (fun c hc => hblank c (List.mem_append_left _ hc))
      (fun c hc => hblank c (List.mem_append_right _ hc)) hfirst hlast, String.ofList_toList]
  · rintro rfl
    have htrim : (trim s).toList = trimChars s.toList := toList_trim s
    -- what is taken off in front, and then off the rest behind
    have hfront := List.takeWhile_append_dropWhile (p := isBlank) (l := s.toList)
    have hback := List.takeWhile_append_dropWhile (p := isBlank)
      (l := (s.toList.dropWhile isBlank).reverse)
    refine ⟨⟨s.toList.takeWhile isBlank,
      (((s.toList.dropWhile isBlank).reverse).takeWhile isBlank).reverse, ?_, ?_⟩, ?_, ?_⟩
    · rw [htrim, trimChars, trimWhile, List.append_assoc, ← List.reverse_append, hback,
        List.reverse_reverse, hfront]
    · intro c hc
      rcases List.mem_append.mp hc with hc | hc
      · exact List.mem_takeWhile_imp hc
      · exact List.mem_takeWhile_imp (List.mem_reverse.mp hc)
    · intro c hc
      obtain ⟨cs, hcs⟩ := List.head?_eq_some_iff.mp (Option.mem_def.mp hc)
      have hdrop := dropWhile_trimWhile isBlank s.toList
      rw [htrim] at hcs
      rw [← trimChars, hcs] at hdrop
      exact dropWhile_eq_cons hdrop
    · intro c hc
      rw [htrim, trimChars, trimWhile, List.getLast?_reverse, Option.mem_def,
        List.head?_eq_some_iff] at hc
      obtain ⟨cs, hcs⟩ := hc
      exact dropWhile_eq_cons hcs

def IsNumber (t : String) : Prop :=
  t.toList ≠ [] ∧ ∀ c ∈ t.toList, 0x30 ≤ c.toNat ∧ c.toNat ≤ 0x39

theorem isDigits_iff {t : String} : isDigits t = true ↔ IsNumber t := by
  have hdigit (c : Char) : c.isDigit = true ↔ 0x30 ≤ c.toNat ∧ c.toNat ≤ 0x39 := by
    rw [Char.isDigit, Bool.and_eq_true, decide_eq_true_eq, decide_eq_true_eq]
    exact Iff.rfl
  rw [isDigits, IsNumber, Bool.and_eq_true, Bool.not_eq_true', List.isEmpty_eq_false_iff,
    List.all_eq_true]
  simp only [hdigit]

end Text

open Sketchbook.Text

namespace Settings

/-- A value that a call can set. -/
inductive Field where
  | width
  | height
  | renderer
  | quality
  deriving DecidableEq

namespace Field

def name : Field → String
  | .width => "width"
  | .height => "height"
  | .renderer => "renderer"
  | .quality => "quality"

def Takes : Field → String → Prop
  | .width, t => IsNumber t ∨ t = "displayWidth"
  | .height, t => IsNumber t ∨ t = "displayHeight"
  | .renderer, t => t ∈ ["P2D", "P3D", "OPENGL", "JAVA2D"]
  | .quality, t => IsNumber t

/-- An argument without the blanks around it is a text that a value can be. -/
def Keeps (f : Field) (a t : String) : Prop := Strips a t ∧ f.Takes t

def kept? (a : String) : Field → Option String
  | .width => dimension? displayWidth a
  | .height => dimension? displayHeight a
  | .renderer => if renderers.contains (trim a) then some (trim a) else none
  | .quality => if isIntegerLiteral a then some (trim a) else none

theorem ite_trim_eq_some_iff {check : Prop} [Decidable check] {P : String → Prop} {a t : String}
    (hcheck : check ↔ P (trim a)) :
    (if check then some (trim a) else none) = some t ↔ Strips a t ∧ P t := by
  rw [Option.ite_none_right_eq_some, hcheck, strips_iff, Option.some.injEq]
  constructor
  · rintro ⟨h, rfl⟩
    exact ⟨rfl, h⟩
  · rintro ⟨rfl, h⟩
    exact ⟨h, rfl⟩

theorem dimension?_eq_some_iff {word a t : String} :
    dimension? word a = some t ↔ Strips a t ∧ (IsNumber t ∨ t = word) := by
  have hcheck : (isIntegerLiteral (trim a) || decide (trim a = word)) = true ↔
      IsNumber (trim a) ∨ trim a = word := by
    rw [Bool.or_eq_true, decide_eq_true_eq, isIntegerLiteral, trim_trim, isDigits_iff]
  rw [dimension?, ite_trim_eq_some_iff (P := fun v => IsNumber v ∨ v = word) hcheck]

/-- What is kept is the argument without the blanks around it, if the value can be this text. -/
theorem kept?_eq_some_iff {f : Field} {a t : String} : f.kept? a = some t ↔ f.Keeps a t := by
  cases f with
  | width => rw [kept?, Keeps, Takes, dimension?_eq_some_iff, displayWidth]
  | height => rw [kept?, Keeps, Takes, dimension?_eq_some_iff, displayHeight]
  | renderer =>
    rw [kept?, Keeps, Takes, ite_trim_eq_some_iff (P := (· ∈ renderers)) List.contains_iff_mem,
      renderers]
  | quality =>
    have hcheck : isIntegerLiteral a = true ↔ IsNumber (trim a) := by
      rw [isIntegerLiteral, isDigits_iff]
    rw [kept?, Keeps, Takes, ite_trim_eq_some_iff hcheck]

theorem kept?_of_eq_some {f : Field} {a t : String} (h : f.kept? a = some t) :
    f.kept? t = some t := by
  rw [kept?_eq_some_iff] at h ⊢
  obtain ⟨hstrips, htakes⟩ := h
  obtain rfl := strips_iff.mp hstrips
  exact ⟨strips_iff.mpr (trim_trim a), htakes⟩

end Field

def Setting.fields : Setting → List Field
  | .size => [.width, .height, .renderer]
  | .smooth => [.quality]

/-- What is to be said about the arguments of a call. -/
structure Judged (k : Setting) (args : List String) (a : Assessment) : Prop where
  valid : a.valid = true ↔ k.arity ≤ args.length ∧
    ∀ x ∈ k.fields.zip args, ∃ t, x.1.Keeps x.2 t
  failure : a.failure? = if a.valid then none else some .parameters
  values : ∀ name t, (name, t) ∈ a.values.toList ↔
    ∃ x ∈ k.fields.zip args, x.1.name = name ∧ x.1.Keeps x.2 t

def keptOf (fs : List Field) (args : List String) : List (Field × String) :=
  (fs.zip args).filterMap fun x => (x.1.kept? x.2).map (x.1, ·)

theorem keptOf_cons (f : Field) (fs : List Field) (a : String) (args : List String) :
    keptOf (f :: fs) (a :: args) = ((f.kept? a).map (f, ·)).toList ++ keptOf fs args := by
  rw [keptOf, List.zip_cons_cons, List.filterMap_cons]
  cases f.kept? a <;> rfl

theorem keptOf_nil_left (args : List String) : keptOf [] args = [] := rfl

theorem keptOf_nil_right (fs : List Field) : keptOf fs [] = [] := by
  rw [keptOf, List.zip_nil_right, List.filterMap_nil]

theorem toList_values (v : Values) :
    v.toList = (v.width.map ("width", ·)).toList ++ (v.height.map ("height", ·)).toList ++
      (v.renderer.map ("renderer", ·)).toList ++ (v.quality.map ("quality", ·)).toList := by
  obtain ⟨width, height, renderer, quality⟩ := v
  cases width <;> cases height <;> cases renderer <;> cases quality <;> rfl

theorem assessSize_pair_eq (w h : String) :
    assessSize [w, h] = assess { width := Field.width.kept? w, height := Field.height.kept? h }
      ((Field.width.kept? w).isSome && (Field.height.kept? h).isSome) := by
  rw [assessSize_pair, Field.kept?, Field.kept?]

theorem assessSize_triple_eq (w h r : String) (more : List String) :
    assessSize (w :: h :: r :: more) =
      assess { width := Field.width.kept? w, height := Field.height.kept? h,
               renderer := Field.renderer.kept? r }
        ((Field.width.kept? w).isSome && (Field.height.kept? h).isSome &&
          (Field.renderer.kept? r).isSome) := by
  rw [assessSize_triple, Field.kept?, Field.kept?, Field.kept?]
  by_cases hr : renderers.contains (trim r) = true
  · rw [if_pos hr, if_pos hr, Option.isSome_some, Bool.and_true]
  · rw [if_neg hr, if_neg hr, Option.isSome_none, Bool.and_false]

theorem assessSmooth_cons_eq (q : String) (more : List String) :
    assessSmooth (q :: more) =
      assess { quality := Field.quality.kept? q } (Field.quality.kept? q).isSome := by
  rw [assessSmooth_cons, Field.kept?]
  by_cases hq : isIntegerLiteral q = true
  · rw [if_pos hq, if_pos hq, Option.isSome_some]
  · rw [if_neg hq, if_neg hq, Option.isSome_none]

theorem toList_values_assess (k : Setting) (args : List String) :
    (k.assess args).values.toList = (keptOf k.fields args).map fun x => (x.1.name, x.2) := by
  have hnamed (f : Field) (t? : Option String) :
      ((t?.map (f, ·)).toList.map fun x => (x.1.name, x.2)) = (t?.map (f.name, ·)).toList := by
    cases t? <;> rfl
  rw [toList_values]
  cases k with
  | size =>
    rcases args with _ | ⟨w, _ | ⟨h, _ | ⟨r, more⟩⟩⟩
    · rfl
    · -- a width alone is kept although the call is not valid
      have hone : (Setting.size.assess [w]).values = { width := Field.width.kept? w } := by
        rw [Setting.assess, assessSize, assess_values, Field.kept?]
      simp only [hone, Setting.fields, keptOf_cons, keptOf_nil_right, List.map_append, hnamed]
      simp [Field.name]
    · simp only [Setting.assess, assessSize_pair_eq, assess_values, Setting.fields, keptOf_cons,
        keptOf_nil_right, List.map_append, hnamed]
      simp [Field.name]
    · simp only [Setting.assess, assessSize_triple_eq, assess_values, Setting.fields, keptOf_cons,
        keptOf_nil_left, List.map_append, hnamed]
      simp [Field.name]
  | smooth =>
    cases args with
    | nil => rfl
    | cons q more =>
      simp only [Setting.assess, assessSmooth_cons_eq, assess_values, Setting.fields, keptOf_cons,
        keptOf_nil_left, List.map_append, hnamed]
      simp [Field.name]

theorem valid_assess_iff (k : Setting) (args : List String) :
    (k.assess args).valid = true ↔ k.arity ≤ args.length ∧
      ∀ x ∈ k.fields.zip args, (x.1.kept? x.2).isSome = true := by
  cases k with
  | size =>
    rcases args with _ | ⟨w, _ | ⟨h, _ | ⟨r, more⟩⟩⟩
    · simp [Setting.assess, assessSize, Setting.arity]
    · simp [Setting.assess, assessSize, Setting.arity]
    · simp [Setting.assess, assessSize_pair_eq, Setting.arity, Setting.fields]
    · simp [Setting.assess, assessSize_triple_eq, Setting.arity, Setting.fields, and_assoc]
  | smooth =>
    cases args with
    | nil => simp [Setting.assess, assessSmooth, Setting.arity]
    | cons q more => simp [Setting.assess, assessSmooth_cons_eq, Setting.arity, Setting.fields]

theorem values_ext {v w : Values} (h : ∀ x, x ∈ v.toList ↔ x ∈ w.toList) : v = w := by
  have hfield (name : String) (f : Values → Option String)
      (hf : ∀ v t, (name, t) ∈ v.toList ↔ f v = some t) : f v = f w := by
    apply Option.ext
    intro t
    rw [← hf, h, hf]
  have hw := hfield "width" Values.width fun v t => by rw [toList_values]; simp
  have hh := hfield "height" Values.height fun v t => by rw [toList_values]; simp
  have hr := hfield "renderer" Values.renderer fun v t => by rw [toList_values]; simp
  have hq := hfield "quality" Values.quality fun v t => by rw [toList_values]; simp
  obtain ⟨width, height, renderer, quality⟩ := v
  obtain ⟨width', height', renderer', quality'⟩ := w
  simp only at hw hh hr hq
  rw [hw, hh, hr, hq]

theorem mem_keptOf {fs : List Field} {args : List String} {f : Field} {t : String} :
    (f, t) ∈ keptOf fs args ↔ ∃ a, (f, a) ∈ fs.zip args ∧ f.Keeps a t := by
  simp only [keptOf, List.mem_filterMap, Option.map_eq_some_iff, Prod.mk.injEq,
    Field.kept?_eq_some_iff]
  constructor
  · rintro ⟨⟨f, a⟩, hmem, t, hkeeps, rfl, rfl⟩
    exact ⟨a, hmem, hkeeps⟩
  · rintro ⟨a, hmem, hkeeps⟩
    exact ⟨(f, a), hmem, t, hkeeps, rfl, rfl⟩

theorem judged_assess (k : Setting) (args : List String) : Judged k args (k.assess args) where
  valid := by
    simp only [valid_assess_iff, Option.isSome_iff_exists, Field.kept?_eq_some_iff]
  failure := failure?_assess k args
  values name t := by
    simp only [toList_values_assess, List.mem_map, Prod.mk.injEq, Prod.exists, mem_keptOf]
    constructor
    · rintro ⟨f, t, ⟨a, hmem, hkeeps⟩, rfl, rfl⟩
      exact ⟨f, a, hmem, rfl, hkeeps⟩
    · rintro ⟨f, a, hmem, rfl, hkeeps⟩
      exact ⟨f, t, ⟨a, hmem, hkeeps⟩, rfl, rfl⟩

theorem Judged.unique {k : Setting} {args : List String} {a b : Assessment} (ha : Judged k args a)
    (hb : Judged k args b) : a = b := by
  have hvalid : a.valid = b.valid := Bool.eq_iff_iff.mpr (ha.valid.trans hb.valid.symm)
  have hfailure := ha.failure
  rw [hvalid, ← hb.failure] at hfailure
  have hvalues : a.values = b.values :=
    values_ext fun x => (ha.values x.1 x.2).trans (hb.values x.1 x.2).symm
  obtain ⟨valid, values, failure⟩ := a
  obtain ⟨valid', values', failure'⟩ := b
  simp only at hvalid hvalues hfailure
  rw [hvalid, hvalues, hfailure]

theorem zip_keptOf {fs : List Field} {args : List String}
    (h : ∀ x ∈ fs.zip args, (x.1.kept? x.2).isSome = true) :
    fs.zip ((keptOf fs args).map Prod.snd) = keptOf fs args := by
  induction fs generalizing args with
  | nil => rfl
  | cons f fs ih =>
    cases args with
    | nil => rfl
    | cons a args =>
      obtain ⟨t, ht⟩ := Option.isSome_iff_exists.mp (h (f, a) List.mem_cons_self)
      have hrest := ih fun x hx => h x (List.mem_cons_of_mem _ hx)
      rw [keptOf_cons, ht]
      simp only [Option.map_some, Option.toList_some, List.singleton_append, List.map_cons,
        List.zip_cons_cons, hrest]

theorem length_keptOf {fs : List Field} {args : List String}
    (h : ∀ x ∈ fs.zip args, (x.1.kept? x.2).isSome = true) :
    (keptOf fs args).length = (fs.zip args).length := by
  rw [keptOf, List.length_filterMap_eq_countP, List.countP_eq_length]
  intro x hx
  rw [Option.isSome_map]
  exact h x hx

theorem Field.Keeps.self {f : Field} {a t : String} (h : f.Keeps a t) (u : String) :
    f.Keeps t u ↔ u = t := by
  have hkept := kept?_of_eq_some (kept?_eq_some_iff.mpr h)
  rw [← kept?_eq_some_iff, hkept, Option.some.injEq, eq_comm]

theorem judged_values {k : Setting} {args : List String} (h : (k.assess args).valid = true) :
    Judged k ((k.assess args).values.toList.map Prod.snd) (k.assess args) := by
  obtain ⟨harity, hkept⟩ := (valid_assess_iff k args).mp h
  have hvalues : (k.assess args).values.toList.map Prod.snd =
      (keptOf k.fields args).map Prod.snd := by
    rw [toList_values_assess, List.map_map]
    rfl
  -- what is kept stands for itself
  have hmem {f : Field} {v : String} (hv : (f, v) ∈ keptOf k.fields args) (t : String) :
      f.Keeps v t ↔ t = v := by
    obtain ⟨a, -, hkeeps⟩ := mem_keptOf.mp hv
    exact hkeeps.self t
  have hfields : k.arity ≤ k.fields.length := by
    cases k <;> decide
  rw [hvalues]
  refine ⟨iff_of_true h ⟨?_, ?_⟩, failure?_assess k args, ?_⟩
  · rw [List.length_map, length_keptOf hkept, List.length_zip]
    exact Nat.le_min.mpr ⟨hfields, harity⟩
  · rw [zip_keptOf hkept]
    rintro ⟨f, v⟩ hv
    exact ⟨v, (hmem hv v).mpr rfl⟩
  · intro name t
    rw [zip_keptOf hkept, toList_values_assess, List.mem_map]
    constructor
    · rintro ⟨⟨f, v⟩, hv, heq⟩
      obtain ⟨rfl, rfl⟩ := Prod.mk.inj heq
      exact ⟨(f, v), hv, rfl, (hmem hv v).mpr rfl⟩
    · rintro ⟨⟨f, v⟩, hv, rfl, hkeeps⟩
      obtain rfl := (hmem hv t).mp hkeeps
      exact ⟨(f, t), hv, rfl⟩

theorem zip_take_length {α β : Type} (xs : List α) (ys : List β) :
    xs.zip (ys.take xs.length) = xs.zip ys := by
  induction xs generalizing ys with
  | nil => rfl
  | cons x xs ih =>
    cases ys with
    | nil => rfl
    | cons y ys =>
      rw [List.length_cons, List.take_succ_cons, List.zip_cons_cons, ih, List.zip_cons_cons]

theorem judged_take_iff {k : Setting} {args : List String} {a : Assessment} :
    Judged k (args.take k.fields.length) a ↔ Judged k args a := by
  have hfields : k.arity ≤ k.fields.length := by
    cases k <;> decide
  have hlength : k.arity ≤ (args.take k.fields.length).length ↔ k.arity ≤ args.length := by
    rw [List.length_take, Nat.le_min, and_iff_right hfields]
  constructor
  · rintro ⟨hvalid, hfailure, hvalues⟩
    rw [hlength, zip_take_length] at hvalid
    rw [zip_take_length] at hvalues
    exact ⟨hvalid, hfailure, hvalues⟩
  · rintro ⟨hvalid, hfailure, hvalues⟩
    rw [← hlength, ← zip_take_length] at hvalid
    rw [← zip_take_length] at hvalues
    exact ⟨hvalid, hfailure, hvalues⟩

/-- How the arguments of a call are judged. A call is valid exactly if it has the arguments that its
setting needs and each of those that matter, without the blanks around it, is a text its value can
be; only then there is no failure, and each value is held exactly if its own argument is such a
text. So a size call with less than two arguments holds a width at most, and a smooth call that is
invalid holds nothing. Further arguments do not matter, and the values of a valid call are judged as
the call is. -/
theorem assess_eq_iff_judged (k : Setting) (args : List String) :
    (∀ a, k.assess args = a ↔ Judged k args a) ∧
    (k = .size → args.length < 2 → ∀ x ∈ (k.assess args).values.toList, x.1 = "width") ∧
    (k = .smooth → (k.assess args).valid = false → (k.assess args).values.toList = []) ∧
    (∀ others, others.take k.fields.length = args.take k.fields.length →
      k.assess others = k.assess args) ∧
    ((k.assess args).valid = true →
      k.assess ((k.assess args).values.toList.map Prod.snd) = k.assess args) := by
  refine ⟨fun a => ⟨?_, (judged_assess k args).unique⟩, ?_, ?_, fun others hsame => ?_,
    fun h => (judged_assess k _).unique (judged_values h)⟩
  · rintro rfl
    exact judged_assess k args
  · rintro rfl hshort x hx
    rw [toList_values_assess] at hx
    obtain ⟨⟨f, t⟩, hmem, rfl⟩ := List.mem_map.mp hx
    obtain ⟨a, hzip, -⟩ := mem_keptOf.mp hmem
    -- only the first value has an argument
    rcases args with _ | ⟨w, _ | ⟨h, more⟩⟩
    · cases hzip
    · rw [Setting.fields, List.zip_cons_cons, List.zip_nil_right, List.mem_singleton] at hzip
      obtain ⟨rfl, rfl⟩ := Prod.mk.inj hzip
      rfl
    · rw [List.length_cons, List.length_cons] at hshort
      omega
  · rintro rfl hinvalid
    cases args with
    | nil => rfl
    | cons q more =>
      rw [Setting.assess, assessSmooth_cons_eq, assess_valid, Option.isSome_eq_false_iff,
        Option.isNone_iff_eq_none] at hinvalid
      rw [Setting.assess, assessSmooth_cons_eq, hinvalid]
      rfl
  · apply (judged_assess k others).unique
    rw [← judged_take_iff, hsame, judged_take_iff]
    exact judged_assess k args

end Settings

end Sketchbook
