import Sketchbook.Proofs.Reducing
import Sketchbook.Syntax.Recovery

namespace Sketchbook.Syntax

open Sketchbook.Syntax.Derivation Sketchbook.Syntax.Stack

variable {R : Nat → Prop} {s s' : Stack} {ps : List Post} {p v w : Nat}

/-- A stack whose first versions stand at the given posts, and whose other versions wait for
nothing. -/
def Stack.Keeps (R : Nat → Prop) (ps : List Post) (s : Stack) : Prop :=
  ∃ qs, Reaches R s (ps ++ ready qs)

namespace Stack

theorem Reaches.keeps (h : Reaches R s ps) : Keeps R ps s :=
  ⟨[], by rwa [append_ready_nil]⟩

theorem Keeps.length_le (h : Keeps R ps s) : ps.length ≤ s.versionCount := by
  obtain ⟨qs, h⟩ := h
  rw [← h.length, List.length_append]
  exact Nat.le_add_right _ _

theorem Keeps.of_append {rs : List Nat} (h : Keeps R (ps ++ ready rs) s) : Keeps R ps s := by
  obtain ⟨qs, h⟩ := h
  refine ⟨rs ++ qs, ?_⟩
  rw [ready_append, ← List.append_assoc]
  exact h

theorem Keeps.removeVersion (h : Keeps R ps s) (hv : ps.length ≤ v) :
    Keeps R ps (s.removeVersion v) := by
  obtain ⟨qs, h⟩ := h
  refine ⟨qs.eraseIdx (v - ps.length), ?_⟩
  rw [← ready_eraseIdx, ← List.eraseIdx_append_of_length_le hv]
  exact h.removeVersion v

theorem Keeps.merge? (h : Keeps R ps s) (hw : ps.length ≤ w) (hs : s.merge? v w = some s') :
    Keeps R ps s' := by
  obtain ⟨qs, h⟩ := h
  refine ⟨qs.eraseIdx (w - ps.length), ?_⟩
  rw [← ready_eraseIdx, ← List.eraseIdx_append_of_length_le hw]
  exact h.merge? hs

theorem getElem?_append_of_getElem? {x : Post} (hv : ps[v]? = some x) (rs : List Post) :
    (ps ++ rs)[v]? = some x := by
  rw [List.getElem?_append_left (List.getElem?_eq_some_iff.mp hv).1, hv]

theorem Keeps.push (h : Keeps R ps s) {q : Nat} (hv : ps[v]? = some ⟨p, none⟩)
    {part? : Option Derivation} (hjoins : Joins R p part? q) (state : State) :
    Keeps R (ps.set v ⟨q, none⟩) (s.push v part? state) := by
  obtain ⟨qs, h⟩ := h
  obtain ⟨hlt, -⟩ := List.getElem?_eq_some_iff.mp hv
  refine ⟨qs, ?_⟩
  rw [← List.set_append_left _ _ hlt]
  exact h.push (getElem?_append_of_getElem? hv _) hjoins state

theorem Keeps.halt (h : Keeps R ps s) {x : Post} (hv : ps[v]? = some x) :
    Keeps R (ps.set v ⟨x.place, none⟩) (s.halt v) := by
  obtain ⟨qs, h⟩ := h
  obtain ⟨hlt, -⟩ := List.getElem?_eq_some_iff.mp hv
  refine ⟨qs, ?_⟩
  rw [← List.set_append_left _ _ hlt]
  exact h.halt (getElem?_append_of_getElem? hv _)

theorem Keeps.pause (h : Keeps R ps s) {x : Post} (hv : ps[v]? = some x) {t : Derivation}
    (ht : Fits R x.place t) : Keeps R (ps.set v ⟨x.place, some t⟩) (s.pause v t) := by
  obtain ⟨qs, h⟩ := h
  obtain ⟨hlt, -⟩ := List.getElem?_eq_some_iff.mp hv
  refine ⟨qs, ?_⟩
  rw [← List.set_append_left _ _ hlt]
  exact h.pause (getElem?_append_of_getElem? hv _) ht

theorem set_same {x : Post} (hv : ps[v]? = some x) : ps.set v x = ps := by
  obtain ⟨hlt, rfl⟩ := List.getElem?_eq_some_iff.mp hv
  exact List.set_getElem_self hlt

theorem Keeps.getElem? (h : Keeps R ps s) (hv : v < s.versionCount)
    (hpost : ps.length ≤ v ∨ ∃ p, ps[v]? = some ⟨p, none⟩) :
    ∃ p qs, Reaches R s (ps ++ ready qs) ∧ (ps ++ ready qs)[v]? = some ⟨p, none⟩ := by
  obtain ⟨qs, h⟩ := h
  rcases hpost with hle | ⟨p, hp⟩
  · rw [← h.length, List.length_append, length_ready] at hv
    have hlt : v - ps.length < qs.length := by omega
    refine ⟨qs[v - ps.length], qs, h, ?_⟩
    rw [List.getElem?_append_right hle, getElem?_ready (List.getElem?_eq_getElem hlt)]
  · exact ⟨p, qs, h, getElem?_append_of_getElem? hp _⟩

theorem Reaches.keeps_replaceVersion {qs : List Nat} {k : Nat}
    (h : Reaches R s (ps ++ ready qs ++ ready (List.replicate k p)))
    (hv : (ps ++ ready qs)[v]? = some ⟨p, none⟩) (hle : (ps ++ ready qs).length ≤ w)
    (hlt : w < (ps ++ ready qs).length + k) : Keeps R ps (s.replaceVersion w v) := by
  have hvlt := (List.getElem?_eq_some_iff.mp hv).1
  have hat := getElem?_append_of_getElem? hv (ready (List.replicate k p))
  have hw : (ps ++ ready qs ++ ready (List.replicate k p))[w]? = some ⟨p, none⟩ := by
    rw [List.getElem?_append_right hle]
    exact getElem?_ready (List.getElem?_replicate_of_lt (by omega))
  have hne : w ≠ v := by omega
  have hreplaced := h.replaceVersion hw hne
  rw [set_same hat, List.eraseIdx_append_of_length_le hle, ready_eraseIdx] at hreplaced
  exact hreplaced.keeps.of_append.of_append

end Stack

namespace Machine

theorem reaches_betterAmong {mine : Standing} {ws : List Nat} (h : Reaches R s ps) :
    Reaches R (betterAmong v mine s ws).1 ps := by
  induction ws generalizing s with
  | nil => exact h
  | cons w ws ih =>
    rw [betterAmong]
    split_ifs
    · exact ih h
    · dsimp only
      split
      · exact h.settle w
      · split_ifs
        · exact h.settle w
        · exact ih (h.settle w)
      · exact ih (h.settle w)

theorem keeps_mergeInto {avoid : Nat} {vs : List Nat} (h : Keeps R ps s) (hw : ps.length ≤ w)
    (hs : mergeInto s avoid w vs = some s') : Keeps R ps s' := by
  obtain ⟨qs, h⟩ := h
  refine ⟨qs.eraseIdx (w - ps.length), ?_⟩
  rw [← ready_eraseIdx, ← List.eraseIdx_append_of_length_le hw]
  exact reaches_mergeInto h hs

theorem reaches_reductions {x : Post} (h : Reaches R s ps) (hv : ps[v]? = some x)
    {f : Stack × Option Nat → Action → Stack × Option Nat}
    (hf : ∀ acc a, f acc a = acc ∨ ∃ symbol count precedence production,
      f acc a = reduce acc.1 v symbol count precedence production) (as : List Action) :
    ∃ k, Reaches R (as.foldl f (s, none)).1 (ps ++ ready (List.replicate k x.place)) ∧
      ∀ w, (as.foldl f (s, none)).2 = some w → ps.length ≤ w ∧ w < ps.length + k := by
  -- over the versions that were added so far
  have hall (acc : Stack × Option Nat) (j : Nat)
      (hacc : Reaches R acc.1 (ps ++ ready (List.replicate j x.place)))
      (hlast : ∀ w, acc.2 = some w → ps.length ≤ w ∧ w < ps.length + j) :
      ∃ k, Reaches R (as.foldl f acc).1 (ps ++ ready (List.replicate k x.place)) ∧
        ∀ w, (as.foldl f acc).2 = some w → ps.length ≤ w ∧ w < ps.length + k := by
    induction as generalizing acc j with
    | nil => exact ⟨j, hacc, hlast⟩
    | cons a as ih =>
      rw [List.foldl_cons]
      rcases hf acc a with heq | ⟨symbol, count, precedence, production, heq⟩
      · rw [heq]
        exact ih acc j hacc hlast
      · have hv' : (ps ++ ready (List.replicate j x.place))[v]? = some x := by
          rw [List.getElem?_append_left (List.getElem?_eq_some_iff.mp hv).1, hv]
        obtain ⟨k, hk, hnew⟩ := reaches_reduce hacc hv' symbol count precedence production
        rw [List.append_assoc, ← ready_append, List.replicate_append_replicate] at hk
        rw [List.length_append, length_ready, List.length_replicate] at hnew
        rw [heq]
        refine ih _ (j + k) hk ?_
        intro w hw
        have := hnew w hw
        omega
  refine hall (s, none) 0 ?_ fun w hw => nomatch hw
  rw [List.replicate_zero, append_ready_nil]
  exact h

/-- Closing all rules that can be closed leaves the versions alone that were there before, the one it
begins with included if it goes on before any token. -/
theorem keeps_reduceAllFrom {start before : Nat} {token? : Option Symbol} (hbefore : start ≤ before)
    {fuel round : Nat} {takes : Bool} (h : Keeps R ps s)
    (hv : ps.length ≤ v ∨ v = start ∧ token? = none ∧ ∃ p, ps[v]? = some ⟨p, none⟩) :
    Keeps R ps (reduceAllFrom start before token? fuel round v takes s).1 := by
  induction fuel generalizing round v takes s with
  | zero => exact h
  | succ fuel ih =>
    rw [reduceAllFrom.eq_def]
    dsimp only
    by_cases hcount : s.versionCount ≤ v
    · rw [if_pos hcount]
      exact h
    rw [if_neg hcount]
    have hnext : ps.length ≤ if v = start then s.versionCount else v + 1 := by
      split_ifs with hstart
      · exact h.length_le
      · have := hv.resolve_right fun hv => hstart hv.1
        omega
    generalize (if v = start then s.versionCount else v + 1) = next at hnext ⊢
    split
    · rename_i s' hmerge
      have hle : ps.length ≤ v := by
        rcases hv with hle | ⟨rfl, -⟩
        · exact hle
        · -- no earlier version is looked at for the one it begins with
          have hnone : (List.range v).drop before = [] := by
            rw [List.drop_eq_nil_iff, List.length_range]
            exact hbefore
          rw [hnone] at hmerge
          cases hmerge
      exact ih (keeps_mergeInto h hle hmerge) hv
    · have hpost : ps.length ≤ v ∨ ∃ p, ps[v]? = some ⟨p, none⟩ := hv.imp_right fun hv => hv.2.2
      obtain ⟨p, qs, hreaches, hvp⟩ := h.getElem? (Nat.lt_of_not_le hcount) hpost
      generalize reductionsFor (s.state v) _ = found
      obtain ⟨actions, canTake⟩ := found
      dsimp only
      generalize hfold : actions.foldl _ (s, none) = r
      obtain ⟨k, hr, hlast⟩ : ∃ k, Reaches R r.1 (ps ++ ready qs ++ ready (List.replicate k p)) ∧
          ∀ w, r.2 = some w → (ps ++ ready qs).length ≤ w ∧ w < (ps ++ ready qs).length + k := by
        rw [← hfold]
        apply reaches_reductions hreaches hvp
        intro acc a
        cases a with
        | reduce symbol count precedence production => exact .inr ⟨_, _, _, _, rfl⟩
        | _ => exact .inl rfl
      obtain ⟨s', last?⟩ := r
      dsimp only at hr hlast ⊢
      have hkeeps : Keeps R ps s' := Keeps.of_append (Keeps.of_append hr.keeps)
      -- a version is dropped only for a token, and then it is none of the first ones
      have hdropped : Keeps R ps (if token?.isSome then s'.removeVersion v else s') := by
        split_ifs with hsome
        · apply hkeeps.removeVersion
          apply hv.resolve_right
          rintro ⟨-, rfl, -⟩
          cases hsome
        · exact hkeeps
      by_cases htake : canTake = true
      · rw [if_pos htake]
        exact ih hkeeps (.inl hnext)
      rw [if_neg htake]
      cases last? with
      | none => exact ih hdropped (.inl hnext)
      | some w =>
        dsimp only
        by_cases hround : round < maxVersions
        · -- the version that was added last stands where this one stood
          rw [if_pos hround]
          obtain ⟨hle, hlt⟩ := hlast w rfl
          exact ih (hr.keeps_replaceVersion hvp hle hlt) hv
        · rw [if_neg hround]
          exact ih hdropped (.inl hnext)

theorem keeps_reduceAll {token? : Option Symbol} (h : Keeps R ps s) (hv : v ≤ s.versionCount)
    (hpost : ps.length ≤ v ∨ token? = none ∧ ∃ p, ps[v]? = some ⟨p, none⟩) :
    Keeps R ps (reduceAll s v token?).1 :=
  keeps_reduceAllFrom hv h (hpost.imp_right fun hpost => ⟨rfl, hpost⟩)

theorem keeps_insertMissing {token : Derivation} {ts : List Symbol} (h : Keeps R ps s)
    (hv : ps[v]? = some ⟨p, none⟩) : Keeps R ps (insertMissing v token s ts).2 := by
  induction ts generalizing s with
  | nil => exact h
  | cons t ts ih =>
    rw [insertMissing]
    dsimp only
    by_cases hnext : (Automaton.next (s.state v) t = 0 || Automaton.next (s.state v) t = s.state v)
    · rw [if_pos hnext]
      exact ih h
    rw [if_neg hnext]
    by_cases hreduces : Automaton.reduces (Automaton.next (s.state v) t) token.symbol = true
    · rw [if_pos hreduces]
      obtain ⟨qs, h⟩ := h
      have hat := getElem?_append_of_getElem? hv (ready qs)
      have hcopied := h.copyVersion hat
      have hn : s.versionCount = (ps ++ ready qs).length := h.length.symm
      have hlast : (ps ++ ready qs ++ [(⟨p, none⟩ : Post)])[s.versionCount]? = some ⟨p, none⟩ := by
        rw [hn, List.getElem?_concat_length]
      -- a token that the text lacks takes up nothing
      have hjoins : Joins R p (some (ofMissing t)) p := ⟨fits_ofMissing t (h.ends hat), rfl⟩
      have hpushed := hcopied.push hlast hjoins (Automaton.next (s.state v) t)
      rw [hn, List.set_append_right _ _ (Nat.le_refl _), Nat.sub_self, List.set_cons_zero,
        List.append_assoc] at hpushed
      have hready : ready qs ++ [(⟨p, none⟩ : Post)] = ready (qs ++ [p]) :=
        (ready_append qs [p]).symm
      rw [hready] at hpushed
      have hall : Keeps R ps (reduceAll ((s.copyVersion v).1.push (ps ++ ready qs).length
          (some (ofMissing t)) (Automaton.next (s.state v) t)) (ps ++ ready qs).length
          (closer? token)).1 := by
        apply keeps_reduceAll ⟨_, hpushed⟩
        · rw [← hpushed.length, List.length_append, List.length_append, ready_append,
            List.length_append]
          omega
        · left
          rw [List.length_append]
          omega
      have hw : (s.copyVersion v).2 = (ps ++ ready qs).length := hn
      rw [hw]
      split_ifs
      · exact hall
      · exact ih hall
    · rw [if_neg hreduces]
      exact ih h

theorem keeps_markErrors {token : Derivation} {inserted : Bool} {vs : List Nat} (h : Keeps R ps s)
    (hvs : ∀ v ∈ vs, ∃ p, ps[v]? = some ⟨p, none⟩) :
    Keeps R ps (markErrors token inserted s vs) := by
  induction vs generalizing s inserted with
  | nil => exact h
  | cons v vs ih =>
    obtain ⟨p, hv⟩ := hvs v List.mem_cons_self
    have hvs := fun w hw => hvs w (List.mem_cons_of_mem v hw)
    have hpush {s : Stack} (h : Keeps R ps s) : Keeps R ps (s.push v none State.skipping) := by
      have hjoins : Joins R p none p := rfl
      have hpushed := h.push hv hjoins State.skipping
      rwa [set_same hv] at hpushed
    rw [markErrors]
    generalize (List.range Symbol.tokenCount).drop 1 = tokens
    cases inserted with
    | true => exact ih (hpush h) hvs
    | false => exact ih (hpush (keeps_insertMissing h hv)) hvs

theorem keeps_joinAll {n : Nat} (h : Keeps R ps s) (hw : ps.length ≤ w) :
    Keeps R ps (joinAll v w n s) := by
  induction n generalizing s with
  | zero => exact h
  | succ n ih =>
    rw [joinAll]
    split
    · rename_i s' hs
      exact ih (h.merge? hw hs)
    · exact ih h

end Machine

end Sketchbook.Syntax
