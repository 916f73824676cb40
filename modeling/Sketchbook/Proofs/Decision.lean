import Mathlib.Data.List.Induction
import Mathlib.Data.List.Nodup
import Sketchbook.Settings.Survey

namespace Sketchbook.Settings

/-- Whether a call counts for a setting: it sets it, and it was not turned down for where it
stands. -/
def Decision.counts (k : Setting) (d : Decision) : Bool :=
  d.site.setting = k && d.assessment.failure? ≠ some .scope

def Call.decision (c : Call) : Decision := ⟨c.site, c.assessment⟩

@[simp] theorem Call.decision_site (c : Call) : c.decision.site = c.site := rfl

@[simp] theorem Call.decision_assessment (c : Call) : c.decision.assessment = c.assessment := rfl

namespace Recorder

def note (r : Recorder) (d : Decision) : Recorder :=
  { r with
    seen := if r.seen.contains d.site.setting then r.seen else r.seen ++ [d.site.setting]
    decisions :=
      if d.assessment.failure? = some .scope then r.decisions else putDecision d r.decisions }

@[simp] theorem note_frozen? (r : Recorder) (d : Decision) : (r.note d).frozen? = r.frozen? := rfl

theorem record_eq_note {r : Recorder} (h : r.frozen? = none) (site : Site) (a : Assessment) :
    r.record site a = .ok (r.note ⟨site, a⟩) := by
  unfold record note
  rw [h]
  by_cases hs : a.failure? = some .scope <;> simp [hs]

theorem contains_seen_note (r : Recorder) (d : Decision) (k : Setting) :
    (r.note d).seen.contains k = (r.seen.contains k || d.site.setting = k) := by
  unfold note
  by_cases hd : d.site.setting ∈ r.seen
  · by_cases hk : d.site.setting = k
    · subst hk
      simp [hd]
    · simp [hd, hk]
  · have hcomm : k = d.site.setting ↔ d.site.setting = k := eq_comm
    simp [hd, hcomm]

theorem find?_putDecision (d : Decision) (ds : List Decision) (k : Setting) :
    (putDecision d ds).find? (fun x => x.site.setting = k) =
      if d.site.setting = k then some d else ds.find? fun x => x.site.setting = k := by
  induction ds with
  | nil => by_cases hk : d.site.setting = k <;> simp [putDecision, hk]
  | cons x ds ih =>
    rw [putDecision]
    split_ifs with hx hk hk
    · simp [hk]
    · simp [hk, hx]
    · have hxk : x.site.setting ≠ k := hk ▸ hx
      simp [hxk, ih, hk]
    · simp [ih, hk, List.find?_cons]

/-- Noting a call changes the decision for its own setting only, and only if the call counts. -/
theorem decision?_note (r : Recorder) (d : Decision) (k : Setting) :
    (r.note d).decision? k = if d.counts k then some d else r.decision? k := by
  unfold decision? note Decision.counts
  by_cases hs : d.assessment.failure? = some .scope
  · simp [hs]
  · by_cases hk : d.site.setting = k <;> simp [hs, hk, find?_putDecision]

/-- The settings with a decision, in the order in which they first got one. -/
def decided (r : Recorder) : List Setting := r.decisions.map fun d => d.site.setting

theorem map_setting_putDecision (d : Decision) (ds : List Decision) :
    (putDecision d ds).map (fun x => x.site.setting) =
      if d.site.setting ∈ ds.map (fun x => x.site.setting)
      then ds.map fun x => x.site.setting
      else ds.map (fun x => x.site.setting) ++ [d.site.setting] := by
  induction ds with
  | nil => simp [putDecision]
  | cons x ds ih =>
    rw [putDecision]
    by_cases hx : x.site.setting = d.site.setting
    · simp [hx]
    · have hx' : ¬d.site.setting = x.site.setting := fun h => hx h.symm
      rw [if_neg hx, List.map_cons, List.map_cons, ih]
      by_cases hm : d.site.setting ∈ ds.map fun x => x.site.setting
      · simp [hm]
      · simp only [List.mem_cons, hx', hm, or_self, ↓reduceIte, List.cons_append]

theorem nodup_decided_note {r : Recorder} (h : r.decided.Nodup) (d : Decision) :
    (r.note d).decided.Nodup := by
  unfold decided note at *
  dsimp only
  split_ifs with hs
  · exact h
  · rw [map_setting_putDecision]
    split_ifs with hm
    · exact h
    · exact List.nodup_append.mpr ⟨h, List.nodup_singleton _, by
        intro a ha b hb
        rw [List.mem_singleton.mp hb]
        exact fun he => hm (he ▸ ha)⟩

def ofCalls (ds : List Decision) : Recorder := ds.foldl note {}

@[simp] theorem ofCalls_append_singleton (ds : List Decision) (d : Decision) :
    ofCalls (ds ++ [d]) = (ofCalls ds).note d := by
  simp [ofCalls]

@[simp] theorem ofCalls_frozen? (ds : List Decision) : (ofCalls ds).frozen? = none := by
  induction ds using List.reverseRecOn with
  | nil => rfl
  | append_singleton ds d ih => rw [ofCalls_append_singleton, note_frozen?, ih]

theorem contains_seen_ofCalls (ds : List Decision) (k : Setting) :
    (ofCalls ds).seen.contains k = ds.any fun d => d.site.setting = k := by
  induction ds using List.reverseRecOn with
  | nil => rfl
  | append_singleton ds d ih =>
    rw [ofCalls_append_singleton, contains_seen_note, ih, List.any_append]
    simp

theorem decision?_ofCalls (ds : List Decision) (k : Setting) :
    (ofCalls ds).decision? k = (ds.filter (Decision.counts k)).getLast? := by
  -- from the last call backwards, as it overrules those before it
  induction ds using List.reverseRecOn with
  | nil => rfl
  | append_singleton ds d ih =>
    rw [ofCalls_append_singleton, decision?_note, ih, List.filter_append]
    by_cases hd : d.counts k <;> simp [hd]

theorem nodup_decided_ofCalls (ds : List Decision) : (ofCalls ds).decided.Nodup := by
  induction ds using List.reverseRecOn with
  | nil => exact List.nodup_nil
  | append_singleton ds d ih =>
    rw [ofCalls_append_singleton]
    exact nodup_decided_note ih d

theorem decisions_eq_or {r : Recorder} (h : r.decided.Nodup) :
    r.decisions = (r.decision? .size).toList ++ (r.decision? .smooth).toList ∨
      r.decisions = (r.decision? .smooth).toList ++ (r.decision? .size).toList := by
  unfold decided at h
  unfold decision?
  rcases hr : r.decisions with _ | ⟨a, _ | ⟨b, _ | ⟨c, ds⟩⟩⟩
  · simp
  · cases ha : a.site.setting <;> simp [ha]
  · rw [hr] at h
    cases ha : a.site.setting <;> cases hb : b.site.setting <;> simp_all
  · -- three decisions on two settings cannot all differ
    rw [hr] at h
    cases ha : a.site.setting <;> cases hb : b.site.setting <;>
      cases hc : c.site.setting <;> simp_all

end Recorder

theorem foldlM_record (calls : List Call) (r : Recorder) (h : r.frozen? = none) :
    calls.foldlM (fun r c => r.record c.site c.assessment) r =
      .ok ((calls.map Call.decision).foldl Recorder.note r) := by
  induction calls generalizing r with
  | nil => rfl
  | cons c calls ih =>
    rw [List.foldlM_cons, Recorder.record_eq_note h]
    exact ih (r.note c.decision) h

theorem recordAll_eq_ofCalls (calls : List Call) :
    recordAll calls = .ok (Recorder.ofCalls (calls.map Call.decision)) :=
  foldlM_record calls {} rfl

/-- The sites of the calls that a sketch's survey takes out, in the order of their starts. -/
def liftedSites (calls : List Call) : List Site :=
  Recorder.sortSites
    (((Recorder.ofCalls (calls.map Call.decision)).decisions.filter
      fun d => d.assessment.valid).map (·.site))

theorem survey_eq (s : Sketch) (entryMethod : String) :
    survey s entryMethod =
      match Editing.Span.checkDisjoint
          ((liftedSites (callsOf s entryMethod)).map fun x => ⟨x.start, x.stop⟩) with
      | .error o => .error (.overlap o)
      | .ok _ => .ok
          { metadata :=
              (Recorder.ofCalls ((callsOf s entryMethod).map Call.decision)).metadata
            edits := (liftedSites (callsOf s entryMethod)).flatMap
              fun x => Editing.Edit.commentOut x.start x.stop
            calls := callsOf s entryMethod } := by
  unfold survey
  simp only [recordAll_eq_ofCalls, Except.mapError, bind, Except.bind, Recorder.freeze,
    Recorder.ofCalls_frozen?, Recorder.decidingSites, Option.isSome_some, ↓reduceIte]
  rw [liftedSites]
  cases Editing.Span.checkDisjoint _ <;> rfl

end Sketchbook.Settings
