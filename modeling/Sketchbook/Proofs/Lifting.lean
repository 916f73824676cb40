import Sketchbook.Proofs.Assembly
import Sketchbook.Proofs.Placement

namespace Sketchbook.Settings

open Sketchbook.Syntax (Node)
open Sketchbook.Editing Sketchbook.Text

def accessorsFor : Setting → List String → List Accessor
  | .size, w :: h :: more =>
    ⟨"sketchWidth", "int", trim w⟩ :: ⟨"sketchHeight", "int", trim h⟩ ::
      (more.head?.map fun r => ⟨"sketchRenderer", "String", trim r⟩).toList
  | .smooth, q :: _ => [⟨"sketchQuality", "int", trim q⟩]
  | _, _ => []

/-- What is said about a setting whose arguments could not be made out. -/
def Setting.warning : Setting → Warning
  | .size => .size
  | .smooth => .smooth

/-- The number of arguments without which nothing can be set. -/
def Setting.arity : Setting → Nat
  | .size => 2
  | .smooth => 1

/-- The part of a result that is due to one setting. -/
structure Share where
  edits : List Edit
  accessors : List Accessor
  warnings : List Warning

/-- The share that is due to a setting whose calls in the right place are `calls`. Only the last one
matters: if it is valid, the opener of a comment goes to where it starts and the closer to where it
stops, and its arguments become methods; else it leaves a warning and nothing more. -/
structure Settles (k : Setting) (calls : List Call) (share : Share) : Prop where
  unused : calls = [] → share = ⟨[], [], []⟩
  refused : ∀ c, calls.getLast? = some c → c.assessment.valid = false →
    share = ⟨[], [], [k.warning]⟩
  lifted : ∀ c, calls.getLast? = some c → c.assessment.valid = true →
    k.arity ≤ c.site.arguments.length ∧
      share = ⟨[⟨c.site.start, "/* commented out by preprocessor: ", .before⟩,
        ⟨c.site.stop, " */ print(\"\")", .after⟩], accessorsFor k c.site.arguments, []⟩

/-- The calls of a setting that stand where they run once at the start. -/
def inPlace (k : Setting) (calls : List Call) : List Call :=
  calls.filter fun c => c.site.setting = k && (c.scope = .global || c.scope = .entryMethod)

@[simp] theorem assess_valid (values : Values) (valid : Bool) :
    (assess values valid).valid = valid := rfl

@[simp] theorem assess_values (values : Values) (valid : Bool) :
    (assess values valid).values = values := rfl

theorem assessSize_pair (w h : String) :
    assessSize [w, h] =
      assess { width := dimension? displayWidth w, height := dimension? displayHeight h }
        ((dimension? displayWidth w).isSome && (dimension? displayHeight h).isSome) := rfl

theorem assessSize_triple (w h r : String) (more : List String) :
    assessSize (w :: h :: r :: more) =
      if renderers.contains (trim r) then
        assess { width := dimension? displayWidth w, height := dimension? displayHeight h,
                 renderer := some (trim r) }
          ((dimension? displayWidth w).isSome && (dimension? displayHeight h).isSome)
      else assess { width := dimension? displayWidth w, height := dimension? displayHeight h }
        false := rfl

theorem assessSmooth_cons (q : String) (more : List String) :
    assessSmooth (q :: more) =
      if isIntegerLiteral q then assess { quality := some (trim q) } true
      else assess {} false := rfl

theorem failure?_assess (k : Setting) (args : List String) :
    (k.assess args).failure? = if (k.assess args).valid then none else some .parameters := by
  have hshape : ∃ values valid, k.assess args = assess values valid := by
    cases k with
    | size =>
      rcases args with _ | ⟨w, _ | ⟨h, _ | ⟨r, more⟩⟩⟩
      · exact ⟨_, _, rfl⟩
      · exact ⟨_, _, rfl⟩
      · exact ⟨_, _, rfl⟩
      · rw [Setting.assess, assessSize_triple]
        split_ifs
        · exact ⟨_, _, rfl⟩
        · exact ⟨_, _, rfl⟩
    | smooth =>
      cases args with
      | nil => exact ⟨_, _, rfl⟩
      | cons q more =>
        rw [Setting.assess, assessSmooth_cons]
        split_ifs
        · exact ⟨_, _, rfl⟩
        · exact ⟨_, _, rfl⟩
  obtain ⟨values, valid, hshape⟩ := hshape
  rw [hshape]
  rfl

def Values.accessors (v : Values) : Setting → List Accessor
  | .size => Metadata.accessorsOf [(v.width, "sketchWidth", "int"),
      (v.height, "sketchHeight", "int"), (v.renderer, "sketchRenderer", "String")]
  | .smooth => Metadata.accessorsOf [(v.quality, "sketchQuality", "int")]

theorem dimension?_isSome {word s : String} (h : (dimension? word s).isSome = true) :
    dimension? word s = some (trim s) := by
  unfold dimension? at h ⊢
  dsimp only at h ⊢
  split_ifs at h ⊢ with hv
  · rfl
  · exact absurd h Bool.false_ne_true

theorem accessors_assess {k : Setting} {args : List String} (h : (k.assess args).valid = true) :
    (k.assess args).values.accessors k = accessorsFor k args := by
  have hsized {w h : String}
      (hs : ((dimension? displayWidth w).isSome && (dimension? displayHeight h).isSome) = true) :
      dimension? displayWidth w = some (trim w) ∧ dimension? displayHeight h = some (trim h) := by
    rw [Bool.and_eq_true] at hs
    exact ⟨dimension?_isSome hs.1, dimension?_isSome hs.2⟩
  cases k with
  | size =>
    rcases args with _ | ⟨w, _ | ⟨h', _ | ⟨r, more⟩⟩⟩
    · exact absurd h Bool.false_ne_true
    · exact absurd h Bool.false_ne_true
    · rw [Setting.assess, assessSize_pair] at h ⊢
      rw [assess_valid] at h
      obtain ⟨hw, hh⟩ := hsized h
      simp only [assess_values, Values.accessors, Metadata.accessorsOf, accessorsFor, hw, hh,
        List.filterMap_cons, List.filterMap_nil, Option.map_some, Option.map_none, List.head?_nil,
        Option.toList_none]
    · -- which names are renderers does not matter, only whether this is one
      rw [Setting.assess, assessSize_triple] at h ⊢
      generalize renderers.contains (trim r) = known at h ⊢
      cases known with
      | false => exact absurd h Bool.false_ne_true
      | true =>
        rw [if_pos rfl, assess_valid] at h
        obtain ⟨hw, hh⟩ := hsized h
        simp only [↓reduceIte, assess_values, Values.accessors, Metadata.accessorsOf, accessorsFor,
          hw, hh, List.filterMap_cons, List.filterMap_nil, Option.map_some, List.head?_cons,
          Option.toList_some]
  | smooth =>
    cases args with
    | nil => exact absurd h Bool.false_ne_true
    | cons q more =>
      rw [Setting.assess, assessSmooth_cons] at h ⊢
      generalize isIntegerLiteral q = literal at h ⊢
      cases literal with
      | false => exact absurd h Bool.false_ne_true
      | true =>
        simp only [↓reduceIte, assess_values, Values.accessors, Metadata.accessorsOf, accessorsFor,
          List.filterMap_cons, List.filterMap_nil, Option.map_some]

theorem arity_le_of_valid {k : Setting} {args : List String} (h : (k.assess args).valid = true) :
    k.arity ≤ args.length := by
  cases k with
  | size =>
    rcases args with _ | ⟨w, _ | ⟨h', more⟩⟩
    · exact absurd h Bool.false_ne_true
    · exact absurd h Bool.false_ne_true
    · simp only [Setting.arity, List.length_cons]
      omega
  | smooth =>
    cases args with
    | nil => exact absurd h Bool.false_ne_true
    | cons q more =>
      simp only [Setting.arity, List.length_cons]
      omega

theorem exists_visited_of_mem_callsOf {s : Sketch} {entryMethod : String} {c : Call}
    (h : c ∈ callsOf s entryMethod) :
    ∃ v ∈ walk s.root, ∃ k, settingOf? s v.node = some k ∧ callAt s entryMethod k v = c := by
  obtain ⟨v, hv, hcall⟩ := List.mem_filterMap.mp h
  exact ⟨v, hv, Option.map_eq_some_iff.mp hcall⟩

theorem assessment_of_mem {s : Sketch} {entryMethod : String} {c : Call}
    (h : c ∈ callsOf s entryMethod) :
    c.assessment = if c.scope = .invalid then ⟨false, {}, some .scope⟩
      else c.site.setting.assess c.site.arguments := by
  obtain ⟨v, -, k, -, rfl⟩ := exists_visited_of_mem_callsOf h
  rfl

theorem counts_decision (k : Setting) (c : Call) :
    c.decision.counts k = true ↔
      c.site.setting = k ∧ c.assessment.failure? ≠ some .scope := by
  rw [Decision.counts, Bool.and_eq_true, decide_eq_true_eq, decide_eq_true_eq,
    Call.decision_site, Call.decision_assessment]

theorem mem_inPlace {k : Setting} {calls : List Call} {c : Call} :
    c ∈ inPlace k calls ↔ c ∈ calls ∧ c.site.setting = k ∧ c.scope ≠ .invalid := by
  rw [inPlace, List.mem_filter]
  cases c.scope <;> simp

theorem filter_counts_callsOf (s : Sketch) (entryMethod : String) (k : Setting) :
    ((callsOf s entryMethod).map Call.decision).filter (Decision.counts k) =
      (inPlace k (callsOf s entryMethod)).map Call.decision := by
  rw [List.filter_map, inPlace]
  congr 1
  refine List.filter_congr fun c hc => ?_
  have hassess := assessment_of_mem hc
  have hfail : c.assessment.failure? ≠ some .scope ↔
      c.scope = .global ∨ c.scope = .entryMethod := by
    rw [hassess]
    cases c.scope with
    | invalid => simp
    | global =>
      rw [if_neg (by decide), failure?_assess]
      split_ifs <;> simp
    | entryMethod =>
      rw [if_neg (by decide), failure?_assess]
      split_ifs <;> simp
  rw [Function.comp_apply, Bool.eq_iff_iff, counts_decision, hfail]
  simp only [Bool.and_eq_true, Bool.or_eq_true, decide_eq_true_eq]

def Metadata.accessorsOn (m : Metadata) : Setting → List Accessor
  | .size => m.sizeAccessors
  | .smooth => m.smoothAccessors

def Metadata.warningsOn (m : Metadata) : Setting → List Warning
  | .size => if m.sizeSeen && !m.sizeValid && m.sizeFailure = some .parameters then [.size] else []
  | .smooth =>
    if m.smoothSeen && !m.smoothValid && m.smoothFailure = some .parameters then [.smooth] else []

theorem Metadata.accessors_eq_append (m : Metadata) :
    m.accessors = m.accessorsOn .size ++ m.accessorsOn .smooth := rfl

theorem Metadata.warnings_eq_append (m : Metadata) :
    m.warnings = m.warningsOn .size ++ m.warningsOn .smooth := rfl

namespace Recorder

theorem metadata_of_none {r : Recorder} {k : Setting} (h : r.decision? k = none) :
    r.metadata.accessorsOn k = [] ∧ r.metadata.warningsOn k = [] := by
  cases k with
  | size =>
    simp only [Metadata.accessorsOn, Metadata.warningsOn, Metadata.sizeAccessors, metadata,
      failure?, h]
    cases r.seen.contains Setting.size <;> simp
  | smooth =>
    simp only [Metadata.accessorsOn, Metadata.warningsOn, Metadata.smoothAccessors, metadata,
      failure?, h]
    cases r.seen.contains Setting.smooth <;> simp

theorem metadata_of_some {r : Recorder} {k : Setting} {d : Decision} (h : r.decision? k = some d)
    (hs : r.seen.contains k = true) :
    r.metadata.accessorsOn k =
        (if d.assessment.valid then d.assessment.values.accessors k else []) ∧
      r.metadata.warningsOn k =
        (if !d.assessment.valid && d.assessment.failure? = some .parameters then [k.warning]
          else []) := by
  cases k with
  | size =>
    simp only [Metadata.accessorsOn, Metadata.warningsOn, Metadata.sizeAccessors, metadata,
      failure?, h, hs, Option.map_some, Option.getD_some, Option.bind_some, Bool.true_and,
      Values.accessors, Setting.warning, and_self]
  | smooth =>
    simp only [Metadata.accessorsOn, Metadata.warningsOn, Metadata.smoothAccessors, metadata,
      failure?, h, hs, Option.map_some, Option.getD_some, Option.bind_some, Bool.true_and,
      Values.accessors, Setting.warning, and_self]

/-- The site of the call that decides for a setting, if it is valid. -/
def validSite (r : Recorder) (k : Setting) : List Site :=
  ((r.decision? k).toList.filter fun d => d.assessment.valid).map (·.site)

theorem validSite_of_some {r : Recorder} {k : Setting} {d : Decision} (h : r.decision? k = some d) :
    r.validSite k = if d.assessment.valid then [d.site] else [] := by
  unfold validSite
  rw [h]
  cases hv : d.assessment.valid <;> simp [hv]

theorem length_validSite_le (r : Recorder) (k : Setting) : (r.validSite k).length ≤ 1 := by
  cases h : r.decision? k with
  | none => simp [validSite, h]
  | some d =>
    rw [validSite_of_some h]
    split_ifs <;> simp

theorem sortSites_append {xs ys : List Site} (hx : xs.length ≤ 1) (hy : ys.length ≤ 1) :
    sortSites (xs ++ ys) = xs ++ ys ∨ sortSites (xs ++ ys) = ys ++ xs := by
  rcases xs with _ | ⟨x, _ | ⟨x', xs⟩⟩
  · rcases ys with _ | ⟨y, _ | ⟨y', ys⟩⟩
    · exact .inl rfl
    · exact .inl rfl
    · simp at hy
  · rcases ys with _ | ⟨y, _ | ⟨y', ys⟩⟩
    · exact .inl rfl
    · simp only [List.singleton_append, sortSites, insertSite]
      split_ifs
      · exact .inl rfl
      · exact .inr rfl
    · simp at hy
  · simp at hx

end Recorder

theorem liftedSites_eq_or (calls : List Call) :
    let r := Recorder.ofCalls (calls.map Call.decision)
    liftedSites calls = r.validSite .size ++ r.validSite .smooth ∨
      liftedSites calls = r.validSite .smooth ++ r.validSite .size := by
  intro r
  have hsize := r.length_validSite_le .size
  have hsmooth := r.length_validSite_le .smooth
  unfold liftedSites
  rcases Recorder.decisions_eq_or (Recorder.nodup_decided_ofCalls (calls.map Call.decision)) with
    h | h
  · rw [h, List.filter_append, List.map_append]
    exact Recorder.sortSites_append hsize hsmooth
  · rw [h, List.filter_append, List.map_append]
    exact (Recorder.sortSites_append hsmooth hsize).symm

theorem mem_liftedSites_iff {calls : List Call} {x : Site} :
    x ∈ liftedSites calls ↔
      ∃ k, x ∈ (Recorder.ofCalls (calls.map Call.decision)).validSite k := by
  have heither : x ∈ liftedSites calls ↔
      x ∈ (Recorder.ofCalls (calls.map Call.decision)).validSite .size ∨
        x ∈ (Recorder.ofCalls (calls.map Call.decision)).validSite .smooth := by
    rcases liftedSites_eq_or calls with h | h
    · rw [h, List.mem_append]
    · rw [h, List.mem_append, or_comm]
  rw [heither]
  constructor
  · intro hx
    exact hx.elim (fun hx => ⟨.size, hx⟩) fun hx => ⟨.smooth, hx⟩
  · rintro ⟨k, hx⟩
    cases k with
    | size => exact .inl hx
    | smooth => exact .inr hx

def Recorder.share (r : Recorder) (k : Setting) : Share where
  edits := (r.validSite k).flatMap fun x => Edit.commentOut x.start x.stop
  accessors := r.metadata.accessorsOn k
  warnings := r.metadata.warningsOn k

theorem settles_share (s : Sketch) (entryMethod : String) (k : Setting) :
    Settles k (inPlace k (callsOf s entryMethod))
      ((Recorder.ofCalls ((callsOf s entryMethod).map Call.decision)).share k) := by
  have hdecision := Recorder.decision?_ofCalls ((callsOf s entryMethod).map Call.decision) k
  rw [filter_counts_callsOf, List.getLast?_map] at hdecision
  -- the last call in the right place decides
  have hlast (c : Call) (hc : (inPlace k (callsOf s entryMethod)).getLast? = some c) :
      (Recorder.ofCalls ((callsOf s entryMethod).map Call.decision)).decision? k =
          some c.decision ∧
        (Recorder.ofCalls ((callsOf s entryMethod).map Call.decision)).seen.contains k = true ∧
        c.assessment = k.assess c.site.arguments := by
    obtain ⟨hmem, hk, hscope⟩ := mem_inPlace.mp (List.mem_of_getLast? hc)
    have hassess := assessment_of_mem hmem
    rw [if_neg hscope, hk] at hassess
    refine ⟨by rw [hdecision, hc]; rfl, ?_, hassess⟩
    rw [Recorder.contains_seen_ofCalls, List.any_eq_true]
    exact ⟨c.decision, List.mem_map_of_mem hmem, decide_eq_true hk⟩
  constructor
  · intro hnil
    rw [hnil] at hdecision
    obtain ⟨ha, hw⟩ := Recorder.metadata_of_none hdecision
    simp [Recorder.share, ha, hw, Recorder.validSite, hdecision]
  · intro c hc hv
    obtain ⟨hd, hs, hassess⟩ := hlast c hc
    obtain ⟨ha, hw⟩ := Recorder.metadata_of_some hd hs
    have hfail : c.assessment.failure? = some .parameters := by
      rw [hassess, failure?_assess, ← hassess, hv]
      rfl
    simp [Recorder.share, ha, hw, Recorder.validSite_of_some hd, hv, hfail]
  · intro c hc hv
    obtain ⟨hd, hs, hassess⟩ := hlast c hc
    obtain ⟨ha, hw⟩ := Recorder.metadata_of_some hd hs
    have hvalues : c.assessment.values.accessors k = accessorsFor k c.site.arguments := by
      rw [hassess] at hv ⊢
      exact accessors_assess hv
    refine ⟨arity_le_of_valid (hassess ▸ hv), ?_⟩
    simp [Recorder.share, ha, hw, Recorder.validSite_of_some hd, hv, hvalues, Edit.commentOut,
      Edit.insertBefore, Edit.insertAfter, Edit.commentOpen, Edit.commentClose]

/-- The methods of a result, the calls it takes out and its warnings are, for each setting, the
share that the calls in the right place call for. The edits for one setting are not mixed with those
for the other, methods and warnings for the size come first, and exactly the warnings of the result
were reported. -/
theorem lifted_iff_commented_out {σ : Type} (report : σ → Warning → σ) (source : Bytes)
    (name package : String) (c : Config) (s : Sketch) (log log' : σ) (g : Generated)
    (h : Generate.assemble report source name package c s log = (.ok g, log')) :
    ∃ share : Setting → Share,
      (∀ k, Settles k (inPlace k (callsOf s c.entryMethod)) (share k)) ∧
      g.calls = callsOf s c.entryMethod ∧
      (g.edits.filter Edit.isCommentOut = (share .size).edits ++ (share .smooth).edits ∨
        g.edits.filter Edit.isCommentOut = (share .smooth).edits ++ (share .size).edits) ∧
      g.accessors = (share .size).accessors ++ (share .smooth).accessors ∧
      g.warnings = (share .size).warnings ++ (share .smooth).warnings ∧
      log' = g.warnings.foldl report log := by
  obtain ⟨found, body, hfound, -, hedits, -, -, -, -, haccessors, hwarnings, hcalls, hlog⟩ :=
    assemble_eq_ok h
  obtain ⟨hfcalls, hmetadata, hfedits⟩ := survey_eq_ok hfound
  refine ⟨(Recorder.ofCalls ((callsOf s c.entryMethod).map Call.decision)).share,
    settles_share s c.entryMethod, by rw [hcalls, hfcalls], ?_, ?_, ?_, by rw [hlog, hwarnings]⟩
  · -- other edits are no comments around calls, and the edits for calls are nothing else
    have hother : (Generate.otherEdits c name s g.accessors
        (s.methodNames.contains "main")).filter Edit.isCommentOut = [] :=
      List.filter_eq_nil_iff.mpr (isCommentOut_otherEdits _ _)
    have hown : found.edits.filter Edit.isCommentOut = found.edits := by
      refine List.filter_eq_self.mpr fun e he => ?_
      rw [hfedits] at he
      obtain ⟨x, -, hx⟩ := List.mem_flatMap.mp he
      simp only [Edit.commentOut, List.mem_cons, List.not_mem_nil, or_false] at hx
      rcases hx with rfl | rfl <;> simp [Edit.isCommentOut, Edit.insertBefore, Edit.insertAfter]
    rw [hedits, List.filter_append, hother, hown, List.append_nil, hfedits]
    rcases liftedSites_eq_or (callsOf s c.entryMethod) with hl | hl
    · exact .inl (by rw [hl, List.flatMap_append]; rfl)
    · exact .inr (by rw [hl, List.flatMap_append]; rfl)
  · rw [haccessors, hmetadata, Metadata.accessors_eq_append]
    rfl
  · rw [hwarnings, hmetadata, Metadata.warnings_eq_append]
    rfl

/-- A sketch of bare statements that sets the size twice and the smoothing in vain. -/
def threeCalls : Sketch where
  source := Utf8.encode "size(1, 2);\nsize(1, 2);\nsmooth(x);"
  mode := .static
  root := .mk none "program" true 0 34 0 [
    .mk none "expression_statement" true 0 11 0 [
      sizeCallAt 0 0, .mk none ";" false 10 11 0 []],
    .mk none "expression_statement" true 12 23 1 [
      sizeCallAt 12 1, .mk none ";" false 22 23 1 []],
    .mk none "expression_statement" true 24 34 2 [
      .mk none "method_invocation" true 24 33 2 [
        .mk (some .name) "identifier" true 24 30 2 [],
        .mk (some .arguments) "argument_list" true 30 33 2 [
          .mk none "(" false 30 31 2 [], .mk none "identifier" true 31 32 2 [],
          .mk none ")" false 32 33 2 []]],
      .mk none ";" false 33 34 2 []]]

/-- Of the two calls that set the size the second one is lifted, and the smoothing leaves a
warning. -/
theorem lifted_iff_commented_out_three_calls :
    ∃ g, Generate.assemble (fun ws w => ws ++ [w]) threeCalls.source "Demo" "p" {} threeCalls [] =
        (.ok g, [Warning.smooth]) ∧
      g.edits.filter Edit.isCommentOut =
        [⟨12, "/* commented out by preprocessor: ", .before⟩, ⟨22, " */ print(\"\")", .after⟩] ∧
      g.accessors = accessorsFor .size ["1", "2"] ∧ g.warnings = [Warning.smooth] := by
  have hok : (Generate.assemble (fun ws w => ws ++ [w]) threeCalls.source "Demo" "p" {}
      threeCalls []).1.isOk = true := by decide +kernel
  rcases hrun : Generate.assemble (fun ws w => ws ++ [w]) threeCalls.source "Demo" "p" {}
      threeCalls [] with ⟨e | g, log⟩
  · rw [hrun] at hok
    cases hok
  · obtain ⟨share, hshare, -, hedits, haccessors, hwarnings, hlog⟩ :=
      lifted_iff_commented_out _ _ _ _ _ _ _ _ _ hrun
    obtain ⟨-, hsize⟩ := (hshare .size).lifted
      ⟨⟨.size, ["1", "2"], 12, 22, 2⟩, .global,
        ⟨true, { width := some "1", height := some "2" }, none⟩⟩ (by decide +kernel) rfl
    have hsmooth := (hshare .smooth).refused
      ⟨⟨.smooth, ["x"], 24, 33, 3⟩, .global, ⟨false, {}, some .parameters⟩⟩ (by decide +kernel) rfl
    rw [hsize, hsmooth] at hedits haccessors hwarnings
    rw [hwarnings] at hlog
    refine ⟨g, by rw [hlog]; rfl, ?_, haccessors, hwarnings⟩
    rcases hedits with he | he
    · exact he
    · exact he

end Sketchbook.Settings
