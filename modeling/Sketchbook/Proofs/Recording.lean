import Mathlib.Data.List.Sort
import Sketchbook.Proofs.Decision

namespace Sketchbook.Settings

/-- What is known about one setting. -/
structure Finding where
  seen : Bool
  valid : Bool
  failure? : Option Failure
  values : Values
  deriving Repr, DecidableEq

def Values.of (k : Setting) (v : Values) : Values :=
  match k with
  | .size => { v with quality := none }
  | .smooth => { quality := v.quality }

def Metadata.finding (m : Metadata) : Setting → Finding
  | .size => ⟨m.sizeSeen, m.sizeValid, m.sizeFailure, ⟨m.width, m.height, m.renderer, none⟩⟩
  | .smooth => ⟨m.smoothSeen, m.smoothValid, m.smoothFailure, ⟨none, none, none, m.quality⟩⟩

namespace Recorder

def lastFor (k : Setting) (ds : List Decision) : Option Decision :=
  (ds.filter (Decision.counts k)).getLast?

/-- What some calls say about a setting: all that the last one which counts says, and if none does,
no more than whether there was a call. -/
def findingOf (k : Setting) (ds : List Decision) : Finding :=
  match lastFor k ds with
  | some d => ⟨true, d.assessment.valid, d.assessment.failure?, d.assessment.values.of k⟩
  | none =>
    let seen := ds.any fun d => d.site.setting = k
    ⟨seen, false, if seen then some .scope else none, {}⟩

/-- The settings for which some call counts, in the order of the first such calls. -/
def settingsOf (ds : List Decision) : List Setting :=
  ((ds.filter fun d => d.assessment.failure? ≠ some .scope).map fun d => d.site.setting).eraseDups

/-- Where the last calls that count stand, for those settings for which they are valid. -/
def validSites (ds : List Decision) : List Site :=
  (settingsOf ds).filterMap fun k =>
    ((lastFor k ds).filter fun d => d.assessment.valid).map (·.site)

/-- The same sites in the order of their starts; those with the same start have kept their order. -/
structure SortedByStart (sites sorted : List Site) : Prop where
  perm : sorted.Perm sites
  ordered : sorted.Pairwise fun a b => a.start ≤ b.start
  stable : ∀ n : Int, sorted.filter (·.start = n) = sites.filter (·.start = n)

/-- What a recorder may be asked for. -/
inductive Step where
  | record (site : Site) (a : Assessment)
  | freeze
  | decidingSites
  deriving Repr, DecidableEq

/-- What a recorder may answer. -/
inductive Answer where
  | recorded
  | metadata (m : Metadata)
  | sites (sites : List Site)
  | refused (e : RecorderError)
  deriving Repr, DecidableEq

def step (r : Recorder) : Step → Recorder × Answer
  | .record site a =>
    match r.record site a with
    | .ok r' => (r', .recorded)
    | .error e => (r, .refused e)
  | .freeze => (r.freeze.1, .metadata r.freeze.2)
  | .decidingSites =>
    match r.decidingSites with
    | .ok sites => (r, .sites sites)
    | .error e => (r, .refused e)

def answers (r : Recorder) : List Step → List Answer
  | [] => []
  | x :: xs => (r.step x).2 :: answers (r.step x).1 xs

def recordedBefore : List Step → List Decision
  | [] => []
  | .record site a :: xs => ⟨site, a⟩ :: recordedBefore xs
  | .freeze :: _ => []
  | .decidingSites :: xs => recordedBefore xs

/-- The answer to a step, when the metadata and the sites are what they will be once and for all. -/
def reply (m : Metadata) (sites : List Site) (frozen : Bool) : Step → Answer
  | .record .. => if frozen then .refused .frozen else .recorded
  | .freeze => .metadata m
  | .decidingSites => if frozen then .sites sites else .refused .notFrozen

/-- The answers to some steps: the first freeze divides them. -/
def replies (m : Metadata) (sites : List Site) : Bool → List Step → List Answer
  | _, [] => []
  | frozen, x :: xs => reply m sites frozen x :: replies m sites (frozen || x = .freeze) xs

def chosen (r : Recorder) : List Site :=
  sortSites ((r.decisions.filter fun d => d.assessment.valid).map (·.site))

theorem lastFor_eq_decision? (k : Setting) (ds : List Decision) :
    lastFor k ds = (ofCalls ds).decision? k := (decision?_ofCalls ds k).symm

theorem failure?_of_none {r : Recorder} {k : Setting} (h : r.decision? k = none) :
    r.failure? k = if r.seen.contains k then some .scope else none := by
  rw [failure?, h]

theorem any_of_lastFor {k : Setting} {ds : List Decision} {d : Decision}
    (h : lastFor k ds = some d) : ds.any (fun x => x.site.setting = k) = true := by
  have hmem := List.mem_filter.mp (List.mem_of_getLast? h)
  have hk := hmem.2
  rw [Decision.counts, Bool.and_eq_true] at hk
  exact List.any_eq_true.mpr ⟨d, hmem.1, hk.1⟩

theorem finding_metadata (ds : List Decision) (k : Setting) :
    (ofCalls ds).metadata.finding k = findingOf k ds := by
  have hseen := contains_seen_ofCalls ds k
  have hlast := lastFor_eq_decision? k ds
  unfold findingOf
  cases hd : lastFor k ds with
  | none =>
    rw [hd] at hlast
    have hfail := failure?_of_none hlast.symm
    rw [hseen] at hfail
    -- the settings differ only in the fields that are theirs
    cases k with
    | size =>
      simp only [Metadata.finding, metadata, ← hlast, hseen, hfail, Option.bind_none,
        Option.map_none, Option.getD_none]
    | smooth =>
      simp only [Metadata.finding, metadata, ← hlast, hseen, hfail, Option.bind_none,
        Option.map_none, Option.getD_none]
  | some d =>
    rw [hd] at hlast
    have hfail : (ofCalls ds).failure? k = d.assessment.failure? := by
      rw [failure?, ← hlast]
    rw [any_of_lastFor hd] at hseen
    cases k with
    | size =>
      simp only [Metadata.finding, metadata, ← hlast, hseen, hfail, Option.bind_some,
        Option.map_some, Option.getD_some, Values.of]
    | smooth =>
      simp only [Metadata.finding, metadata, ← hlast, hseen, hfail, Option.bind_some,
        Option.map_some, Option.getD_some, Values.of]

theorem eraseDups_concat (ks : List Setting) (k : Setting) :
    (ks ++ [k]).eraseDups = if k ∈ ks then ks.eraseDups else ks.eraseDups ++ [k] := by
  rw [List.eraseDups_append]
  by_cases hk : k ∈ ks
  · have hnone : [k].removeAll ks = [] := by simp [List.removeAll, hk]
    rw [hnone, if_pos hk]
    exact List.append_nil _
  · have hall : [k].removeAll ks = [k] := by simp [List.removeAll, hk]
    rw [hall, if_neg hk]
    rfl

theorem decided_ofCalls (ds : List Decision) : (ofCalls ds).decided = settingsOf ds := by
  induction ds using List.reverseRecOn with
  | nil => rfl
  | append_singleton ds d ih =>
    rw [ofCalls_append_singleton]
    unfold decided settingsOf at *
    unfold note
    by_cases hs : d.assessment.failure? = some .scope
    · -- a call that was turned down for where it stands changes neither side
      simpa [hs] using ih
    · have hfilter : (ds ++ [d]).filter (fun x => decide (x.assessment.failure? ≠ some .scope)) =
          ds.filter (fun x => decide (x.assessment.failure? ≠ some .scope)) ++ [d] := by
        rw [List.filter_append]
        simp [hs]
      rw [if_neg hs, hfilter, List.map_append, List.map_singleton, eraseDups_concat,
        map_setting_putDecision, ih]
      simp only [List.mem_eraseDups]

theorem eq_filterMap_find? {ds : List Decision} (h : (ds.map fun d => d.site.setting).Nodup) :
    ds = (ds.map fun d => d.site.setting).filterMap fun k =>
      ds.find? fun d => d.site.setting = k := by
  induction ds with
  | nil => rfl
  | cons d ds ih =>
    rw [List.map_cons, List.nodup_cons] at h
    have hrest : (ds.map fun x => x.site.setting).filterMap
        (fun k => (d :: ds).find? fun x => x.site.setting = k) = ds := by
      conv_rhs => rw [ih h.2]
      apply List.filterMap_congr
      intro k hk
      have hne : d.site.setting ≠ k := by
        rintro rfl
        exact h.1 hk
      simp [hne]
    rw [List.map_cons, List.filterMap_cons, hrest]
    simp

theorem chosen_ofCalls (ds : List Decision) : (ofCalls ds).chosen = sortSites (validSites ds) := by
  have hfind := eq_filterMap_find? (nodup_decided_ofCalls ds)
  change (ofCalls ds).decisions = (ofCalls ds).decided.filterMap (ofCalls ds).decision? at hfind
  rw [chosen, hfind, decided_ofCalls, validSites, List.filter_filterMap, List.map_filterMap]
  congr 1
  apply List.filterMap_congr
  intro k _
  rw [lastFor_eq_decision?]

instance : Std.Total fun a b : Site => a.start ≤ b.start where
  total a b := Int.le_total a.start b.start

instance : IsTrans Site fun a b => a.start ≤ b.start where
  trans _ _ _ := Int.le_trans

theorem sortSites_eq_insertionSort (sites : List Site) :
    sortSites sites = sites.insertionSort fun a b => a.start ≤ b.start := by
  have hinsert (x : Site) (ys : List Site) :
      insertSite x ys = ys.orderedInsert (fun a b => a.start ≤ b.start) x := by
    induction ys with
    | nil => rfl
    | cons y ys ih => rw [insertSite, List.orderedInsert_cons, ih]
  induction sites with
  | nil => rfl
  | cons x xs ih => rw [sortSites, hinsert, ih, List.insertionSort_cons]

theorem sortedByStart_sortSites (sites : List Site) : SortedByStart sites (sortSites sites) := by
  rw [sortSites_eq_insertionSort]
  refine ⟨List.perm_insertionSort _ _, List.pairwise_insertionSort _ _, ?_⟩
  intro n
  have hsame : (sites.filter (·.start = n)).Pairwise fun a b => a.start ≤ b.start := by
    apply List.pairwise_of_forall_mem_list
    intro a ha b hb
    have hna : a.start = n := of_decide_eq_true (List.mem_filter.mp ha).2
    have hnb : b.start = n := of_decide_eq_true (List.mem_filter.mp hb).2
    omega
  have hsub := (List.sublist_insertionSort hsame List.filter_sublist).filter
    fun x : Site => decide (x.start = n)
  rw [List.filter_filter] at hsub
  simp only [Bool.and_self] at hsub
  -- as many sites start there before and after, so that the sublist is all of them
  have hlength := ((List.perm_insertionSort (fun a b : Site => a.start ≤ b.start) sites).filter
    fun x => decide (x.start = n)).length_eq
  exact (hsub.eq_of_length hlength.symm).symm

theorem answers_of_frozen {r : Recorder} {m : Metadata} (h : r.frozen? = some m)
    (steps : List Step) : r.answers steps = replies m r.chosen true steps := by
  induction steps with
  | nil => rfl
  | cons x xs ih =>
    have hstep : r.step x = (r, reply m r.chosen true x) := by
      cases x with
      | record site a => simp [step, record, h, reply]
      | freeze => simp [step, freeze, h, reply]
      | decidingSites => simp [step, decidingSites, h, reply, chosen]
    rw [answers, hstep, ih]
    rfl

/-- Until it is settled, a recorder knows the calls noted so far, to which those that are still to
be noted before that will be added. -/
theorem answers_of_open (ds : List Decision) (steps : List Step) :
    (ofCalls ds).answers steps = replies (ofCalls (ds ++ recordedBefore steps)).metadata
      (ofCalls (ds ++ recordedBefore steps)).chosen false steps := by
  have hopen (ds : List Decision) : (ofCalls ds).frozen? = none := ofCalls_frozen? ds
  induction steps generalizing ds with
  | nil => rfl
  | cons x xs ih =>
    cases x with
    | record site a =>
      have hstep : (ofCalls ds).step (.record site a) =
          (ofCalls (ds ++ [⟨site, a⟩]), .recorded) := by
        rw [step, record_eq_note (hopen ds), ofCalls_append_singleton]
      rw [answers, hstep, ih]
      simp [replies, reply, recordedBefore]
    | freeze =>
      have hstep : (ofCalls ds).step .freeze =
          ({ ofCalls ds with frozen? := some (ofCalls ds).metadata },
            .metadata (ofCalls ds).metadata) := by
        simp [step, freeze]
      -- from here on no answer changes
      rw [answers, hstep, answers_of_frozen rfl]
      simp [replies, reply, recordedBefore, chosen]
    | decidingSites =>
      have hstep : (ofCalls ds).step .decidingSites = (ofCalls ds, .refused .notFrozen) := by
        simp [step, decidingSites]
      rw [answers, hstep, ih]
      rfl

/-- Whatever a recorder is asked for, and in whatever order: calls are noted up to the first freeze
and refused from then on, the deciding calls are refused up to it and given from then on, and both
they and the metadata are always the same. They come from the calls noted up to the first freeze
alone, for each setting from the last of them that counts. -/
theorem answers_eq_replies (steps : List Step) :
    ∃ m sites, (∀ k, m.finding k = findingOf k (recordedBefore steps)) ∧
      SortedByStart (validSites (recordedBefore steps)) sites ∧
      ({} : Recorder).answers steps = replies m sites false steps := by
  have hrun := answers_of_open [] steps
  rw [List.nil_append, chosen_ofCalls] at hrun
  refine ⟨(ofCalls (recordedBefore steps)).metadata, sortSites (validSites (recordedBefore steps)),
    ?_, ?_, hrun⟩
  · intro k
    exact finding_metadata _ k
  · exact sortedByStart_sortSites _

end Recorder

end Sketchbook.Settings
