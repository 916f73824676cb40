import Sketchbook.Proofs.Grounding

namespace Sketchbook.Syntax

open Sketchbook.Syntax.Derivation

namespace Stack

variable {R G : Nat → Prop} {s : Stack} {ps : List Post} {v t base : Nat}

def ready (qs : List Nat) : List Post := qs.map fun q => ⟨q, none⟩

theorem ready_append (qs rs : List Nat) : ready (qs ++ rs) = ready qs ++ ready rs :=
  List.map_append

theorem append_ready_nil (ps : List Post) : ps ++ ready [] = ps := List.append_nil ps

theorem length_ready (qs : List Nat) : (ready qs).length = qs.length := List.length_map _

theorem getElem?_ready {qs : List Nat} {i q : Nat} (h : qs[i]? = some q) :
    (ready qs)[i]? = some ⟨q, none⟩ := by
  rw [ready, List.getElem?_map, h]
  rfl

/-- What was passed on a way down fits from the place it has come to up to the place it began at. -/
structure Descent.Going (R : Nat → Prop) (entries : Array Entry) (t : Nat) (d : Descent) : Prop where
  below : d.entry < entries.size
  fits : FitAll R (spot entries d.entry) d.parts
  spans : spot entries d.entry + widthAll d.parts = t

theorem Descent.Going.follow {entries : Array Entry} {d : Descent} (h : d.Going R entries t)
    (hrooted : Rooted R entries) {l : Link} (hl : l ∈ (entries.getD d.entry default).links) :
    (d.follow l).Going R entries t := by
  obtain ⟨hbelow, hjoins⟩ := hrooted.links d.entry l hl
  unfold Descent.follow
  cases hpart : l.part? with
  | none =>
    rw [hpart] at hjoins
    have heq : spot entries l.below = spot entries d.entry := hjoins
    refine ⟨hbelow, ?_, ?_⟩
    · exact heq.symm ▸ h.fits
    · exact heq.symm ▸ h.spans
  | some p =>
    rw [hpart] at hjoins
    obtain ⟨hfits, hwidth⟩ := hjoins
    refine ⟨hbelow, ⟨hfits, ?_⟩, ?_⟩
    · rw [hwidth]
      exact h.fits
    · change spot entries l.below + (p.width + widthAll d.parts) = t
      rw [← Nat.add_assoc, hwidth]
      exact h.spans

/-- What was taken off a version that stood at `t`: for each new version, from number `base` on, the
parts that fit from its place up to `t`. `G` holds of the places that are left. -/
structure Pending (R G : Nat → Prop) (t base : Nat) (slices : List Slice) (more : List Nat) :
    Prop where
  sorted : slices.Pairwise fun x y => x.version ≤ y.version
  covered : ∀ i < more.length, ∃ x ∈ slices, x.version = base + i
  held : ∀ x ∈ slices, base ≤ x.version ∧ ∃ q, more[x.version - base]? = some q ∧ G q ∧
    FitAll R q x.parts ∧ q + widthAll x.parts = t

theorem pending_nil : Pending R G t base [] [] :=
  ⟨List.Pairwise.nil, fun i hi => absurd hi (Nat.not_lt_zero i), fun _ hx => nomatch hx⟩

theorem Pending.eq_nil {more : List Nat} (h : Pending R G t base [] more) : more = [] := by
  cases more with
  | nil => rfl
  | cons q qs =>
    obtain ⟨x, hx, -⟩ := h.covered 0 (Nat.succ_pos _)
    cases hx

theorem insertIdx_append_cons {α : Type} (front back : List α) (x y : α) :
    (front ++ x :: back).insertIdx (front.length + 1) y = front ++ x :: y :: back := by
  induction front with
  | nil => rfl
  | cons a front ih => rw [List.cons_append, List.length_cons, List.insertIdx_succ_cons, ih]; rfl

theorem Pending.insertIdx {slices : List Slice} {more : List Nat}
    (h : Pending R G t base slices more) {i q : Nat} {x : Slice} (hx : slices[i]? = some x)
    (hq : more[x.version - base]? = some q) {parts : List Derivation} (hfits : FitAll R q parts)
    (hspans : q + widthAll parts = t) :
    Pending R G t base (slices.insertIdx (i + 1) ⟨parts, x.version⟩) more := by
  obtain ⟨hi, hget⟩ := List.getElem?_eq_some_iff.mp hx
  -- cut the slices behind the one that leaves the same version
  have hsplit : slices = slices.take i ++ x :: slices.drop (i + 1) := by
    rw [← hget, ← List.drop_eq_getElem_cons hi, List.take_append_drop]
  have hlength : (slices.take i).length = i := by
    rw [List.length_take]
    omega
  have hinsert : slices.insertIdx (i + 1) ⟨parts, x.version⟩ =
      slices.take i ++ x :: ⟨parts, x.version⟩ :: slices.drop (i + 1) := by
    conv_lhs => rw [hsplit]
    rw [← insertIdx_append_cons, hlength]
  have hxheld := h.held x (List.mem_of_getElem? hx)
  have hsorted := h.sorted
  rw [hsplit] at hsorted
  obtain ⟨hfront, hback, hacross⟩ := List.pairwise_append.mp hsorted
  obtain ⟨hxback, hback⟩ := List.pairwise_cons.mp hback
  have hmem {y : Slice} : y ∈ slices.insertIdx (i + 1) ⟨parts, x.version⟩ ↔
      y ∈ slices ∨ y = ⟨parts, x.version⟩ := by
    rw [hinsert]
    conv_rhs => rw [hsplit]
    simp only [List.mem_append, List.mem_cons]
    tauto
  constructor
  · rw [hinsert]
    refine List.pairwise_append.mpr ⟨hfront, ?_, ?_⟩
    · refine List.pairwise_cons.mpr ⟨?_, List.pairwise_cons.mpr ⟨hxback, hback⟩⟩
      intro y hy
      rcases List.mem_cons.mp hy with rfl | hy
      · exact Nat.le_refl _
      · exact hxback y hy
    · intro y hy z hz
      rcases List.mem_cons.mp hz with rfl | hz
      · exact hacross y hy z List.mem_cons_self
      · rcases List.mem_cons.mp hz with rfl | hz
        · exact hacross y hy x List.mem_cons_self
        · exact hacross y hy z (List.mem_cons_of_mem _ hz)
  · intro j hj
    obtain ⟨y, hy, hversion⟩ := h.covered j hj
    exact ⟨y, hmem.mpr (.inl hy), hversion⟩
  · intro y hy
    rcases hmem.mp hy with hy | rfl
    · exact h.held y hy
    · obtain ⟨hle, q', hq', hG, -⟩ := hxheld
      rw [hq, Option.some.injEq] at hq'
      exact ⟨hle, q, hq, hq' ▸ hG, hfits, hspans⟩

theorem Pending.concat {slices : List Slice} {more : List Nat}
    (h : Pending R G t base slices more) {q n : Nat} (hn : n = base + more.length) (hG : G q)
    {parts : List Derivation} (hfits : FitAll R q parts) (hspans : q + widthAll parts = t) :
    Pending R G t base (slices ++ [⟨parts, n⟩]) (more ++ [q]) := by
  constructor
  · refine List.pairwise_append.mpr ⟨h.sorted, List.pairwise_singleton _ _, ?_⟩
    intro x hx y hy
    obtain ⟨hle, q', hq', -⟩ := h.held x hx
    have hlt := (List.getElem?_eq_some_iff.mp hq').1
    rw [List.mem_singleton.mp hy, hn]
    change x.version ≤ base + more.length
    omega
  · intro i hi
    rw [List.length_append, List.length_singleton] at hi
    by_cases hlt : i < more.length
    · obtain ⟨x, hx, hversion⟩ := h.covered i hlt
      exact ⟨x, List.mem_append_left _ hx, hversion⟩
    · refine ⟨⟨parts, n⟩, List.mem_append_right _ (List.mem_singleton_self _), ?_⟩
      change n = base + i
      omega
  · intro x hx
    rcases List.mem_append.mp hx with hx | hx
    · obtain ⟨hle, q', hq', hrest⟩ := h.held x hx
      have hlt := (List.getElem?_eq_some_iff.mp hq').1
      exact ⟨hle, q', by rw [List.getElem?_append_left hlt, hq'], hrest⟩
    · obtain rfl := List.mem_singleton.mp hx
      refine ⟨by change base ≤ n; omega, q, ?_, hG, hfits, hspans⟩
      change (more ++ [q])[n - base]? = some q
      rw [hn, Nat.add_sub_cancel_left, List.getElem?_concat_length]

theorem lt_of_mem_dropWhile {slices : List Slice} {b : Nat}
    (hsorted : slices.Pairwise fun x y => x.version ≤ y.version) (hle : ∀ x ∈ slices, b ≤ x.version) :
    ∀ x ∈ slices.dropWhile (fun y => y.version = b), b < x.version := by
  induction slices with
  | nil =>
    intro x hx
    cases hx
  | cons y slices ih =>
    obtain ⟨hfirst, hrest⟩ := List.pairwise_cons.mp hsorted
    intro x hx
    by_cases hy : y.version = b
    · rw [List.dropWhile_cons_of_pos (by simp [hy])] at hx
      exact ih hrest (fun z hz => hle z (List.mem_cons_of_mem _ hz)) x hx
    · have hlt : b < y.version := Nat.lt_of_le_of_ne (hle y List.mem_cons_self) (Ne.symm hy)
      rw [List.dropWhile_cons_of_neg (by simp [hy])] at hx
      rcases List.mem_cons.mp hx with rfl | hx
      · exact hlt
      · exact Nat.lt_of_lt_of_le hlt (hfirst x hx)

theorem Pending.cons {slices : List Slice} {more : List Nat} {x : Slice}
    (h : Pending R G t base (x :: slices) more) :
    ∃ q qs, more = q :: qs ∧ x.version = base ∧ G q ∧
      (∀ y ∈ x :: slices, y.version = base → FitAll R q y.parts ∧ q + widthAll y.parts = t) ∧
      Pending R G t (base + 1) (slices.dropWhile fun y => y.version = base) qs := by
  obtain ⟨hle, q, hq, hG, -⟩ := h.held x List.mem_cons_self
  obtain ⟨hfirst, hsorted⟩ := List.pairwise_cons.mp h.sorted
  cases more with
  | nil => cases hq
  | cons q₀ qs =>
    obtain ⟨z, hz, hzbase⟩ := h.covered 0 (Nat.succ_pos _)
    -- the first version is covered by some slice, and versions only grow along the slices
    have hx : x.version = base := by
      rcases List.mem_cons.mp hz with rfl | hz
      · exact hzbase
      · have := hfirst z hz
        omega
    rw [hx, Nat.sub_self, List.getElem?_cons_zero, Option.some.injEq] at hq
    subst hq
    refine ⟨q₀, qs, rfl, hx, hG, ?_, ?_, ?_, ?_⟩
    · intro y hy hversion
      obtain ⟨-, q, hq, -, hfits, hspans⟩ := h.held y hy
      rw [hversion, Nat.sub_self, List.getElem?_cons_zero, Option.some.injEq] at hq
      subst hq
      exact ⟨hfits, hspans⟩
    · exact hsorted.sublist (List.dropWhile_sublist _)
    · intro i hi
      obtain ⟨y, hy, hversion⟩ := h.covered (i + 1) (by rw [List.length_cons]; omega)
      refine ⟨y, ?_, by omega⟩
      rcases List.mem_cons.mp hy with rfl | hy
      · omega
      · rw [← List.takeWhile_append_dropWhile (p := fun y => decide (y.version = base)) (l := slices),
          List.mem_append] at hy
        rcases hy with hy | hy
        · have hall := List.all_eq_true.mp List.all_takeWhile y hy
          have := of_decide_eq_true hall
          omega
        · exact hy
    · intro y hy
      have hlt := lt_of_mem_dropWhile hsorted (fun z hz => hx ▸ hfirst z hz) y hy
      have hmem := List.mem_cons_of_mem x ((List.dropWhile_sublist _).subset hy)
      obtain ⟨-, q, hq, hrest⟩ := h.held y hmem
      refine ⟨hlt, q, ?_, hrest⟩
      rw [← hq, List.getElem?_cons, if_neg (by omega), Nat.sub_sub]

/-- The versions of a stack at the end of ways down from a version that stood at `t`. -/
def Walked (R G : Nat → Prop) (t : Nat) (s₀ : Stack) (ps : List Post) (s : Stack)
    (slices : List Slice) : Prop :=
  s.entries = s₀.entries ∧
    ∃ more, Reaches R s (ps ++ ready more) ∧ Pending R G t ps.length slices more

variable {s₀ : Stack} {slices : List Slice}

theorem Walked.addSlice (h : Walked R G t s₀ ps s slices) {d : Descent}
    (hd : d.Going R s₀.entries t) (hG : G (spot s₀.entries d.entry)) (origin : Nat) :
    Walked R G t s₀ ps (addSlice s origin slices d).1 (addSlice s origin slices d).2 := by
  obtain ⟨hentries, more, hreaches, hpending⟩ := h
  rw [← hentries] at hd hG
  unfold Stack.addSlice
  dsimp only
  split
  · rename_i x i hfind
    have hmem : (x, i) ∈ slices.zipIdx := List.mem_reverse.mp (List.mem_of_find?_eq_some hfind)
    have hat : slices[i]? = some x := List.mem_zipIdx_iff_getElem?.mp hmem
    -- a slice that leaves the same entry shares its version
    have hfound := List.find?_some hfind
    have htop : (s.version x.version).top = d.entry := of_decide_eq_true hfound
    obtain ⟨hle, q, hq, -⟩ := hpending.held x (List.mem_of_getElem? hat)
    have hpost : (ps ++ ready more)[x.version]? = some ⟨q, none⟩ := by
      rw [List.getElem?_append_right hle, getElem?_ready hq]
    have hspot : spot s.entries (s.version x.version).top = q :=
      congrArg Post.place (hreaches.post_version hpost)
    rw [htop] at hspot
    refine ⟨hentries, more, hreaches, hpending.insertIdx hat hq ?_ ?_⟩
    · exact hspot ▸ hd.fits
    · exact hspot ▸ hd.spans
  · -- no slice does, so a version is added for this one
    have hn : s.versionCount = ps.length + more.length := by
      rw [← hreaches.length, List.length_append, length_ready]
    refine ⟨hentries, more ++ [spot s.entries d.entry], ?_, ?_⟩
    · rw [ready_append, ← List.append_assoc]
      exact hreaches.addVersion hd.below fun t ht => nomatch ht
    · exact hpending.concat hn hG hd.fits hd.spans

section Walk

variable {σ : Type} {judge : Entry → Descent → σ → Verdict × σ}

theorem Walked.round (origin : Nat) (hrooted : Rooted R s₀.entries)
    (hG : ∀ n d m, (judge (s₀.entry n) d m).1.pop = true → G (spot s₀.entries n))
    {ds : List Descent} (hds : ∀ d ∈ ds, d.Going R s₀.entries t) {r : Round σ}
    (h : Walked R G t s₀ ps r.stack r.slices)
    (hr : ∀ d ∈ r.going ++ r.branched, d.Going R s₀.entries t) :
    Walked R G t s₀ ps (round judge origin ds r).stack (round judge origin ds r).slices ∧
      ∀ d ∈ (round judge origin ds r).going ++ (round judge origin ds r).branched,
        d.Going R s₀.entries t := by
  induction ds generalizing r with
  | nil => exact ⟨h, hr⟩
  | cons d ds ih =>
    have hd := hds d List.mem_cons_self
    have hds := fun d' hd' => hds d' (List.mem_cons_of_mem d hd')
    -- entries are never changed on a way down
    have hentry : r.stack.entry d.entry = s₀.entry d.entry := by
      rw [entry, entry, h.1]
    rw [Stack.round]
    dsimp only
    rw [hentry]
    rcases hjudge : judge (s₀.entry d.entry) d r.memory with ⟨verdict, memory⟩
    dsimp only
    have hwalked : Walked R G t s₀ ps
        (if verdict.pop then Stack.addSlice r.stack origin r.slices d else (r.stack, r.slices)).1
        (if verdict.pop then Stack.addSlice r.stack origin r.slices d else (r.stack, r.slices)).2 := by
      split_ifs with hpop
      · have hpop : (judge (s₀.entry d.entry) d r.memory).1.pop = true := by rw [hjudge]; exact hpop
        exact h.addSlice hd (hG _ _ _ hpop) origin
      · exact h
    generalize (if verdict.pop then Stack.addSlice r.stack origin r.slices d
      else (r.stack, r.slices)) = left at hwalked ⊢
    cases hlinks : (s₀.entry d.entry).links with
    | nil => exact ih hds hwalked hr
    | cons first others =>
      have hfollow : ∀ l ∈ first :: others, (d.follow l).Going R s₀.entries t := by
        intro l hl
        apply hd.follow hrooted
        rw [← hlinks] at hl
        exact hl
      dsimp only
      split_ifs
      · exact ih hds hwalked hr
      · apply ih hds hwalked
        intro d' hd'
        dsimp only at hd'
        rw [List.mem_append, List.mem_append, List.mem_append, List.mem_singleton] at hd'
        rcases hd' with (hd' | rfl) | (hd' | hd')
        · exact hr d' (List.mem_append_left _ hd')
        · exact hfollow first List.mem_cons_self
        · exact hr d' (List.mem_append_right _ hd')
        · obtain ⟨l, hl, rfl⟩ := List.mem_map.mp hd'
          exact hfollow l (List.mem_cons_of_mem _ (List.mem_of_mem_take hl))

theorem Walked.descend (origin : Nat) (hrooted : Rooted R s₀.entries)
    (hG : ∀ n d m, (judge (s₀.entry n) d m).1.pop = true → G (spot s₀.entries n)) {fuel : Nat}
    {m : σ} {ds : List Descent} (hds : ∀ d ∈ ds, d.Going R s₀.entries t)
    (h : Walked R G t s₀ ps s slices) :
    Walked R G t s₀ ps (descend judge origin fuel s slices m ds).1
      (descend judge origin fuel s slices m ds).2.1 := by
  induction fuel generalizing s slices m ds with
  | zero => exact h
  | succ fuel ih =>
    rw [Stack.descend.eq_def]
    dsimp only
    split
    · exact h
    · obtain ⟨hwalked, hgoing⟩ := Walked.round origin hrooted hG hds
        (r := ⟨s, slices, m, [], []⟩) h fun d hd => nomatch hd
      exact ih hgoing hwalked

theorem Reaches.walk (h : Reaches R s ps) {x : Post} (hv : ps[v]? = some x)
    (hG : ∀ n d m, (judge (s.entry n) d m).1.pop = true → G (spot s.entries n)) (m : σ) :
    ∃ more, Reaches R (s.walk v judge m).1 (ps ++ ready more) ∧
      Pending R G x.place ps.length (s.walk v judge m).2.1 more := by
  have hspot : spot s.entries (s.version v).top = x.place :=
    congrArg Post.place (h.post_version hv)
  have hgoing : ∀ d ∈ [(⟨(s.version v).top, [], 0⟩ : Descent)], d.Going R s.entries x.place := by
    intro d hd
    rw [List.mem_singleton.mp hd]
    exact ⟨h.top_lt v, trivial, hspot⟩
  have hstart : Walked R G x.place s ps s [] := by
    refine ⟨rfl, [], ?_, pending_nil⟩
    rw [append_ready_nil]
    exact h
  exact (hstart.descend v h.rooted hG hgoing).2

end Walk

theorem Reaches.popCount (h : Reaches R s ps) {x : Post} (hv : ps[v]? = some x) (count : Nat) :
    ∃ more, Reaches R (s.popCount v count).1 (ps ++ ready more) ∧
      Pending R (fun _ => True) x.place ps.length (s.popCount v count).2 more :=
  h.walk hv (fun _ _ _ _ => trivial) ()

theorem Reaches.popAll (h : Reaches R s ps) {x : Post} (hv : ps[v]? = some x) :
    ∃ more, Reaches R (s.popAll v).1 (ps ++ ready more) ∧
      Pending R (· = 0) x.place ps.length (s.popAll v).2 more :=
  h.walk hv (fun n _ _ hpop => h.rooted.bottom n (List.isEmpty_iff.mp hpop)) ()

theorem eraseIdx_append_cons {α : Type} (front back : List α) (x : α) :
    (front ++ x :: back).eraseIdx front.length = front ++ back := by
  rw [List.eraseIdx_append_of_length_le (Nat.le_refl _), Nat.sub_self, List.eraseIdx_cons_zero]

theorem Reaches.replaceVersion_ready {q : Nat} {qs : List Nat}
    (h : Reaches R s (ps ++ ready (q :: qs))) (hv : v < ps.length) :
    Reaches R (s.replaceVersion ps.length v) (ps.set v ⟨q, none⟩ ++ ready qs) := by
  have hw : (ps ++ ready (q :: qs))[ps.length]? = some ⟨q, none⟩ := by
    rw [List.getElem?_append_right (Nat.le_refl _), Nat.sub_self]
    rfl
  have hreplaced := h.replaceVersion hw (Nat.ne_of_gt hv)
  have hset : (ps ++ ready (q :: qs)).set v ⟨q, none⟩ =
      ps.set v ⟨q, none⟩ ++ ⟨q, none⟩ :: ready qs := List.set_append_left _ _ hv
  have hlength : ps.length = (ps.set v ⟨q, none⟩).length := List.length_set.symm
  rw [hset] at hreplaced
  conv at hreplaced => rhs; rw [hlength]
  rwa [eraseIdx_append_cons] at hreplaced

theorem Reaches.popError {p : Nat} (h : Reaches R s ps) (hv : ps[v]? = some ⟨p, none⟩) :
    ∃ q more, Reaches R (s.popError v).1 (ps.set v ⟨q, none⟩ ++ ready more) ∧
      FitAll R q (s.popError v).2 ∧ q + widthAll (s.popError v).2 = p := by
  obtain ⟨hlt, hget⟩ := List.getElem?_eq_some_iff.mp hv
  have hsame : ps.set v ⟨p, none⟩ = ps := by
    rw [← hget, List.set_getElem_self]
  -- without an error on top nothing is taken off
  have hnone {t : Stack} (ht : Reaches R t ps) : ∃ q more,
      Reaches R t (ps.set v ⟨q, none⟩ ++ ready more) ∧ FitAll R q [] ∧ q + widthAll [] = p := by
    refine ⟨p, [], ?_, trivial, rfl⟩
    rw [hsame, append_ready_nil]
    exact ht
  unfold Stack.popError
  dsimp only
  split
  · generalize hwalk : s.walk v _ false = r
    obtain ⟨more, hreaches, hpending⟩ : ∃ more, Reaches R r.1 (ps ++ ready more) ∧
        Pending R (fun _ => True) p ps.length r.2.1 more := by
      rw [← hwalk]
      exact h.walk hv (fun _ _ _ _ => trivial) false
    obtain ⟨s', slices, found⟩ := r
    cases slices with
    | nil =>
      have hmore := hpending.eq_nil
      subst hmore
      rw [append_ready_nil] at hreaches
      exact hnone hreaches
    | cons x slices =>
      obtain ⟨q, qs, rfl, hx, -, hfits, -⟩ := hpending.cons
      obtain ⟨hparts, hspans⟩ := hfits x List.mem_cons_self hx
      refine ⟨q, qs, ?_, hparts, hspans⟩
      dsimp only
      rw [hx]
      exact hreaches.replaceVersion_ready hlt
  · exact hnone h

theorem Reaches.recordResumptions {x : Post} (h : Reaches R s ps) (hv : ps[v]? = some x) :
    Reaches R (s.recordResumptions v) ps := by
  unfold Stack.recordResumptions
  generalize hwalk : s.walk v _ [] = r
  obtain ⟨more, hreaches, hpending⟩ : ∃ more, Reaches R r.1 (ps ++ ready more) ∧
      Pending R (fun _ => False) x.place ps.length r.2.1 more := by
    rw [← hwalk]
    apply h.walk hv
    intro n d found hpop
    dsimp only at hpop
    split_ifs at hpop
  obtain ⟨s', slices, found⟩ := r
  have hnil : slices = [] := by
    cases slices with
    | nil => rfl
    | cons x slices =>
      obtain ⟨-, q, -, hG, -⟩ := hpending.held x List.mem_cons_self
      exact hG.elim
  subst hnil
  have hmore := hpending.eq_nil
  subst hmore
  rw [append_ready_nil] at hreaches
  exact hreaches.setVersion_same rfl rfl

end Stack

end Sketchbook.Syntax
