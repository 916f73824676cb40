import Sketchbook.Proofs.Lifting
import Sketchbook.Proofs.Recording

namespace Sketchbook

open Sketchbook.Text
open Sketchbook.Settings

namespace Settings

/-- Values that can be printed as they are: texts of ASCII digits, and the known words in the places
that they are known for. -/
structure Values.Printable (v : Values) : Prop where
  width : ∀ t, v.width = some t → isDigits t = true ∨ t = displayWidth
  height : ∀ t, v.height = some t → isDigits t = true ∨ t = displayHeight
  renderer : ∀ t, v.renderer = some t → t ∈ renderers
  quality : ∀ t, v.quality = some t → isDigits t = true

/-- What is known about a setting is not at odds with itself: whether there was a call, whether the
setting is valid, why not, and which values it has. -/
structure Finding.Sound (k : Setting) (f : Finding) : Prop where
  valid : f.valid = true → f.seen = true ∧ f.failure? = none
  failed : f.failure? ≠ none ↔ f.seen = true ∧ f.valid = false
  misplaced : f.failure? = some .scope → f.values = {}
  unseen : f.seen = false → f.values = {}
  sized : k = .size → f.valid = true → f.values.width.isSome = true ∧ f.values.height.isSome = true
  smoothed : k = .smooth → (f.values.quality.isSome = true ↔ f.valid = true)
  printable : f.values.Printable

theorem toList_trim (s : String) : (trim s).toList = trimChars s.toList := String.toList_ofList

theorem trim_trim (s : String) : trim (trim s) = trim s := by
  have htrim : trimChars (trim s).toList = trimChars s.toList := by
    rw [toList_trim, trimChars, trimChars, trimWhile_trimWhile]
  rw [trim, htrim]
  rfl

theorem dimension?_eq_some (word s : String) :
    ∀ t, dimension? word s = some t → isDigits t = true ∨ t = word := by
  intro t h
  unfold dimension? at h
  dsimp only at h
  split_ifs at h with hv
  rw [Option.some.injEq] at h
  subst h
  rw [Bool.or_eq_true, isIntegerLiteral, trim_trim] at hv
  exact hv.imp_right of_decide_eq_true

theorem forall_eq_some_of_none {P : String → Prop} (t : String) (h : none = some t) : P t := by
  cases h

theorem printable_none : Values.Printable {} :=
  ⟨forall_eq_some_of_none, forall_eq_some_of_none, forall_eq_some_of_none, forall_eq_some_of_none⟩

theorem printable_sized {width height renderer : Option String}
    (hw : ∀ t, width = some t → isDigits t = true ∨ t = displayWidth)
    (hh : ∀ t, height = some t → isDigits t = true ∨ t = displayHeight)
    (hr : ∀ t, renderer = some t → t ∈ renderers) :
    Values.Printable { width, height, renderer } :=
  ⟨hw, hh, hr, forall_eq_some_of_none⟩

theorem printable_assess (k : Setting) (args : List String) : (k.assess args).values.Printable := by
  cases k with
  | size =>
    -- the values are kept one by one, so an invalid call may leave some of them
    rcases args with _ | ⟨w, _ | ⟨h, _ | ⟨r, more⟩⟩⟩
    · exact printable_none
    · have hw := dimension?_eq_some displayWidth w
      exact printable_sized hw forall_eq_some_of_none forall_eq_some_of_none
    · have hw := dimension?_eq_some displayWidth w
      have hh := dimension?_eq_some displayHeight h
      rw [Setting.assess, assessSize_pair, assess_values]
      exact printable_sized hw hh forall_eq_some_of_none
    · have hw := dimension?_eq_some displayWidth w
      have hh := dimension?_eq_some displayHeight h
      rw [Setting.assess, assessSize_triple]
      by_cases hr : renderers.contains (trim r) = true
      · rw [if_pos hr, assess_values]
        -- what is kept is the trimmed text, and that is the one looked up
        apply printable_sized hw hh
        intro t ht
        rw [← Option.some.inj ht]
        exact List.contains_iff_mem.mp hr
      · rw [if_neg hr, assess_values]
        exact printable_sized hw hh forall_eq_some_of_none
  | smooth =>
    cases args with
    | nil => exact printable_none
    | cons q more =>
      rw [Setting.assess, assessSmooth_cons]
      by_cases hq : isIntegerLiteral q = true
      · rw [if_pos hq, assess_values]
        refine ⟨forall_eq_some_of_none, forall_eq_some_of_none, forall_eq_some_of_none, ?_⟩
        intro t ht
        rw [← Option.some.inj ht]
        exact hq
      · rw [if_neg hq, assess_values]
        exact printable_none

theorem sized_assess {args : List String} (h : (Setting.size.assess args).valid = true) :
    (Setting.size.assess args).values.width.isSome = true ∧
      (Setting.size.assess args).values.height.isSome = true := by
  have hkept {width height renderer : Option String}
      (hv : (width.isSome && height.isSome) = true) :
      (assess { width, height, renderer } (width.isSome && height.isSome)).values.width.isSome =
          true ∧
        (assess { width, height, renderer } (width.isSome && height.isSome)).values.height.isSome =
          true := by
    rw [Bool.and_eq_true] at hv
    exact hv
  -- with less than two arguments no call is valid
  rcases args with _ | ⟨w, _ | ⟨h', _ | ⟨r, more⟩⟩⟩
  · exact absurd h Bool.false_ne_true
  · exact absurd h Bool.false_ne_true
  · rw [Setting.assess, assessSize_pair] at h ⊢
    rw [assess_valid] at h
    exact hkept h
  · rw [Setting.assess, assessSize_triple] at h ⊢
    by_cases hr : renderers.contains (trim r) = true
    · rw [if_pos hr] at h ⊢
      rw [assess_valid] at h
      exact hkept h
    · rw [if_neg hr, assess_valid] at h
      exact absurd h Bool.false_ne_true

theorem smoothed_assess (args : List String) :
    (Setting.smooth.assess args).values.quality.isSome = (Setting.smooth.assess args).valid := by
  cases args with
  | nil => rfl
  | cons q more =>
    rw [Setting.assess, assessSmooth_cons]
    split_ifs <;> rfl

theorem Values.Printable.of {v : Values} (h : v.Printable) (k : Setting) : (v.of k).Printable := by
  cases k with
  | size => exact ⟨h.width, h.height, h.renderer, forall_eq_some_of_none⟩
  | smooth =>
    exact ⟨forall_eq_some_of_none, forall_eq_some_of_none, forall_eq_some_of_none, h.quality⟩

theorem sound_assess (k : Setting) (args : List String) :
    Finding.Sound k ⟨true, (k.assess args).valid, (k.assess args).failure?,
      (k.assess args).values.of k⟩ where
  valid hv := ⟨rfl, by rw [failure?_assess, if_pos hv]⟩
  failed := by
    rw [failure?_assess]
    cases (k.assess args).valid <;> simp
  misplaced hs := by
    rw [failure?_assess] at hs
    split_ifs at hs
    cases hs
  unseen h := Bool.noConfusion h
  sized := by
    rintro rfl hv
    exact sized_assess hv
  smoothed := by
    rintro rfl
    exact Bool.eq_iff_iff.mp (smoothed_assess args)
  printable := (printable_assess k args).of k

theorem sound_undecided (k : Setting) (seen : Bool) :
    Finding.Sound k ⟨seen, false, if seen then some .scope else none, {}⟩ where
  valid h := Bool.noConfusion h
  failed := by cases seen <;> simp
  misplaced _ := rfl
  unseen _ := rfl
  sized _ h := Bool.noConfusion h
  smoothed _ := by simp
  printable := printable_none

theorem sound_findingOf (s : Sketch) (entryMethod : String) (k : Setting) :
    Finding.Sound k
      (Recorder.findingOf k ((callsOf s entryMethod).map Call.decision)) := by
  have hlast : Recorder.lastFor k ((callsOf s entryMethod).map Call.decision) =
      (inPlace k (callsOf s entryMethod)).getLast?.map Call.decision := by
    rw [Recorder.lastFor, filter_counts_callsOf, List.getLast?_map]
  -- the last call in the right place decides, and if there is none there are no values
  unfold Recorder.findingOf
  rw [hlast]
  cases hc : (inPlace k (callsOf s entryMethod)).getLast? with
  | none => exact sound_undecided k _
  | some c =>
    obtain ⟨hmem, hk, hscope⟩ := mem_inPlace.mp (List.mem_of_getLast? hc)
    have hassess := assessment_of_mem hmem
    rw [if_neg hscope, hk] at hassess
    simp only [Option.map_some, Call.decision_assessment, hassess]
    exact sound_assess k c.site.arguments

theorem sound_of_survey {s : Sketch} {entryMethod : String} {found : Survey}
    (h : survey s entryMethod = .ok found) (k : Setting) :
    (found.metadata.finding k).Sound k := by
  rw [(survey_eq_ok h).2.1, Recorder.finding_metadata]
  exact sound_findingOf s entryMethod k

end Settings

namespace Accessor

/-- A method that returns a number, or a word that is known for what the method is for. -/
def IsPrintable (a : Accessor) : Prop :=
  (a.name = "sketchWidth" ∧ (isDigits a.body = true ∨ a.body = displayWidth)) ∨
  (a.name = "sketchHeight" ∧ (isDigits a.body = true ∨ a.body = displayHeight)) ∨
  (a.name = "sketchRenderer" ∧ a.body ∈ renderers) ∨
  (a.name = "sketchQuality" ∧ isDigits a.body = true)

theorem isPrintable_of_mem {m : Metadata} (h : ∀ k, (m.finding k).values.Printable) :
    ∀ a ∈ m.accessors, a.IsPrintable := by
  intro a ha
  have hsize := h .size
  have hsmooth := h .smooth
  rw [Metadata.accessors, List.mem_append, Metadata.sizeAccessors, Metadata.smoothAccessors] at ha
  rcases ha with ha | ha
  · split_ifs at ha
    · obtain ⟨⟨value, name, type⟩, hmem, hvalue⟩ := List.mem_filterMap.mp ha
      obtain ⟨t, rfl, rfl⟩ := Option.map_eq_some_iff.mp hvalue
      simp only [List.mem_cons, Prod.mk.injEq, List.not_mem_nil, or_false] at hmem
      rcases hmem with ⟨ht, rfl, -⟩ | ⟨ht, rfl, -⟩ | ⟨ht, rfl, -⟩
      · exact .inl ⟨rfl, hsize.width t ht.symm⟩
      · exact .inr (.inl ⟨rfl, hsize.height t ht.symm⟩)
      · exact .inr (.inr (.inl ⟨rfl, hsize.renderer t ht.symm⟩))
    · cases ha
  · split_ifs at ha
    · obtain ⟨⟨value, name, type⟩, hmem, hvalue⟩ := List.mem_filterMap.mp ha
      obtain ⟨t, rfl, rfl⟩ := Option.map_eq_some_iff.mp hvalue
      simp only [List.mem_cons, Prod.mk.injEq, List.not_mem_nil, or_false] at hmem
      obtain ⟨ht, rfl, -⟩ := hmem
      exact .inr (.inr (.inr ⟨rfl, hsmooth.quality t ht.symm⟩))
    · cases ha

end Accessor

/-- What a survey comes to is not at odds with itself, for either setting. The methods that are made
of it return numbers and known words, and they are those of the class file, whoever is told of
warnings: no other text of the sketch gets into them. -/
theorem settings_sound (s : Sketch) (entryMethod : String) (found : Survey)
    (h : survey s entryMethod = .ok found) :
    (∀ k, (found.metadata.finding k).Sound k) ∧ (∀ a ∈ found.metadata.accessors, a.IsPrintable) ∧
    ∀ (σ : Type) (report : σ → Warning → σ) (source : Bytes) (name package : String) (c : Config)
      (log log' : σ) (g : Generated), c.entryMethod = entryMethod →
      Generate.assemble report source name package c s log = (.ok g, log') →
        g.metadata = found.metadata ∧ g.accessors = found.metadata.accessors := by
  have hsound := sound_of_survey h
  refine ⟨hsound, Accessor.isPrintable_of_mem fun k => (hsound k).printable, ?_⟩
  rintro σ report source name package c log log' g rfl hrun
  -- a class file is made of the survey of its sketch, and there is only one
  obtain ⟨found', body, hfound, -, -, -, -, -, hmetadata, haccessors, -⟩ := assemble_eq_ok hrun
  obtain rfl : found' = found := Except.ok.inj (hfound.symm.trans h)
  exact ⟨hmetadata, haccessors⟩

/-- Of a sketch with a valid size and a smoothing that cannot be made out. -/
theorem settings_sound_three_calls :
    ∃ found, survey threeCalls "setup" = .ok found ∧
      (found.metadata.finding .size).Sound .size ∧ found.metadata.sizeValid = true ∧
      (found.metadata.finding .smooth).Sound .smooth ∧ found.metadata.smoothSeen = true ∧
      found.metadata.accessors.length = 2 ∧ ∀ a ∈ found.metadata.accessors, a.IsPrintable := by
  have hrun : (survey threeCalls "setup").toOption.any (fun found =>
      found.metadata.sizeValid = true ∧ found.metadata.smoothSeen = true ∧
        found.metadata.accessors.length = 2) = true := by
    decide +kernel
  cases hfound : survey threeCalls "setup" with
  | error e =>
    rw [hfound] at hrun
    cases hrun
  | ok found =>
    rw [hfound] at hrun
    obtain ⟨hvalid, hseen, hlength⟩ := of_decide_eq_true hrun
    obtain ⟨hsound, hprintable, -⟩ := settings_sound threeCalls "setup" found hfound
    exact ⟨found, rfl, hsound .size, hvalid, hsound .smooth, hseen, hlength, hprintable⟩

end Sketchbook
