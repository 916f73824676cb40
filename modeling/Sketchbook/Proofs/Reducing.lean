import Sketchbook.Proofs.Descending

namespace Sketchbook.Syntax

open Sketchbook.Syntax.Derivation Sketchbook.Syntax.Stack

variable {R : Nat → Prop} {s s' : Stack} {ps : List Post} {p t v w : Nat}

theorem getElem?_append_ready (q : Nat) (qs : List Nat) :
    (ps ++ ready (q :: qs))[ps.length]? = some ⟨q, none⟩ := by
  rw [List.getElem?_append_right (Nat.le_refl _), Nat.sub_self]
  rfl

theorem set_append_ready (q r : Nat) (qs : List Nat) :
    (ps ++ ready (q :: qs)).set ps.length ⟨r, none⟩ = ps ++ ready (r :: qs) := by
  rw [List.set_append_right _ _ (Nat.le_refl _), Nat.sub_self]
  rfl

theorem eraseIdx_append_ready (q : Nat) (qs : List Nat) :
    (ps ++ ready (q :: qs)).eraseIdx ps.length = ps ++ ready qs :=
  eraseIdx_append_cons _ _ _

theorem ready_set (qs : List Nat) (i q : Nat) : (ready qs).set i ⟨q, none⟩ = ready (qs.set i q) := by
  rw [ready, ready, List.map_set]

theorem ready_eraseIdx (qs : List Nat) (i : Nat) : (ready qs).eraseIdx i = ready (qs.eraseIdx i) :=
  List.eraseIdx_map _ _ _

theorem Stack.Reaches.pushAll (h : Reaches R s ps) (hw : ps[w]? = some ⟨p, none⟩)
    {ds : List Derivation} (hfits : FitAll R p ds) (state : State) :
    Reaches R (ds.foldl (fun s e => s.push w (some e) state) s)
      (ps.set w ⟨p + widthAll ds, none⟩) := by
  obtain ⟨hlt, hget⟩ := List.getElem?_eq_some_iff.mp hw
  induction ds generalizing s ps p with
  | nil =>
    rw [widthAll, Nat.add_zero, ← hget, List.set_getElem_self]
    exact h
  | cons d ds ih =>
    have hjoins : Joins R p (some d) (p + d.width) := ⟨hfits.1, rfl⟩
    have hpush := h.push hw hjoins state
    have hlt' : w < (ps.set w ⟨p + d.width, none⟩).length := by
      rw [List.length_set]
      exact hlt
    have hget' : (ps.set w ⟨p + d.width, none⟩)[w] = ⟨p + d.width, none⟩ := List.getElem_set_self _
    have hrest := ih hpush (List.getElem?_eq_some_iff.mpr ⟨hlt', hget'⟩) hfits.2 hlt' hget'
    rw [List.set_set, Nat.add_assoc] at hrest
    exact hrest

namespace Machine

/-- A rule and what follows it take up the bytes from one place up to another. -/
structure Closed (R : Nat → Prop) (q t : Nat) (rule : Derivation) (extras : List Derivation) :
    Prop where
  fits : Fits R q rule
  behind : FitAll R (q + rule.width) extras
  spans : q + rule.width + widthAll extras = t

theorem closed_ofParts {q : Nat} {parts : List Derivation} (hfits : FitAll R q parts)
    (hspans : q + widthAll parts = t) (symbol : Symbol) (production : Nat) :
    Closed R q t (ofParts symbol production (splitExtras parts).1) (splitExtras parts).2 := by
  rw [← splitExtras_append parts, fitAll_append] at hfits
  rw [← splitExtras_append parts, widthAll_append, ← Nat.add_assoc] at hspans
  refine ⟨fits_ofParts symbol production hfits.1, ?_, ?_⟩
  · rw [width_ofParts]
    exact hfits.2
  · rw [width_ofParts]
    exact hspans

theorem closed_chooseParts {q : Nat} {symbol : Symbol} {production version : Nat}
    {rule : Derivation} {extras : List Derivation} {slices : List Slice}
    (h : Closed R q t rule extras)
    (hs : ∀ x ∈ slices, x.version = version → FitAll R q x.parts ∧ q + widthAll x.parts = t) :
    Closed R q t (chooseParts symbol production version rule extras slices).1
        (chooseParts symbol production version rule extras slices).2.1 ∧
      (chooseParts symbol production version rule extras slices).2.2 =
        slices.dropWhile fun x => x.version = version := by
  induction slices generalizing rule extras with
  | nil => exact ⟨h, rfl⟩
  | cons x slices ih =>
    have hrest := fun y hy => hs y (List.mem_cons_of_mem x hy)
    rw [chooseParts]
    by_cases hx : x.version = version
    · obtain ⟨hfits, hspans⟩ := hs x List.mem_cons_self hx
      rw [if_pos hx, List.dropWhile_cons_of_pos (by simp [hx])]
      dsimp only
      split_ifs
      · apply ih _ hrest
        -- a rule with another number takes up the same bytes
        exact closed_ofParts hfits hspans symbol production
      · exact ih h hrest
    · rw [if_neg hx, List.dropWhile_cons_of_neg (by simp [hx])]
      exact ⟨h, rfl⟩

theorem reaches_mergeInto {avoid : Nat} {vs : List Nat} (h : Reaches R s ps)
    (hs : mergeInto s avoid w vs = some s') : Reaches R s' (ps.eraseIdx w) := by
  induction vs with
  | nil => cases hs
  | cons u vs ih =>
    rw [mergeInto] at hs
    split_ifs at hs
    · exact ih hs
    · split at hs
      · rename_i t ht
        cases hs
        exact h.merge? ht
      · exact ih hs

theorem reaches_closeSlices (avoid : Nat) (symbol : Symbol) (precedence production halted : Nat)
    {G : Nat → Prop} {fuel removed : Nat} {slices : List Slice} {more : List Nat}
    (h : Reaches R s (ps ++ ready more))
    (hpending : Pending R G t (ps.length + removed) slices more) (hfuel : slices.length < fuel) :
    ∃ k, Reaches R (closeSlices avoid symbol precedence production halted fuel s removed slices)
      (ps ++ ready (List.replicate k t)) := by
  induction fuel generalizing s ps removed slices more with
  | zero => exact absurd hfuel (Nat.not_lt_zero _)
  | succ fuel ih =>
    cases slices with
    | nil =>
      have hmore := hpending.eq_nil
      subst hmore
      exact ⟨0, h⟩
    | cons x slices =>
      obtain ⟨q, qs, rfl, hx, -, hfits, htail⟩ := hpending.cons
      obtain ⟨hparts, hspans⟩ := hfits x List.mem_cons_self hx
      have hw : x.version - removed = ps.length := by omega
      have hshorter : (slices.dropWhile fun y => y.version = x.version).length < fuel := by
        have := (List.dropWhile_sublist (l := slices) fun y => decide (y.version = x.version)).length_le
        rw [List.length_cons] at hfuel
        omega
      rw [← hx] at htail
      have hbase : x.version + 1 = ps.length + (removed + 1) := by omega
      rw [closeSlices]
      dsimp only
      rw [hw]
      split_ifs
      · -- the version is dropped, and those behind it move up
        have hremoved := h.removeVersion ps.length
        rw [ready, List.map_cons, eraseIdx_append_cons] at hremoved
        exact ih hremoved (hbase ▸ htail) hshorter
      · have hclosed := closed_ofParts hparts hspans symbol production
        obtain ⟨hchosen, hrest⟩ := closed_chooseParts hclosed fun y hy hversion =>
          hfits y (List.mem_cons_of_mem x hy) (hversion.trans hx)
        rw [hrest]
        generalize chooseParts symbol production x.version _ _ slices = chosen at hchosen ⊢
        -- the rule and what follows it take the version back to where it stood
        have hrule : Joins R q (some (chosen.1.prefer precedence)) (q + chosen.1.width) := by
          refine ⟨(fits_prefer precedence).mpr hchosen.fits, ?_⟩
          rw [width_prefer]
        have hpushed := h.push (getElem?_append_ready q qs) hrule
          (Automaton.next (s.state ps.length) symbol)
        rw [set_append_ready] at hpushed
        have hall := hpushed.pushAll (getElem?_append_ready _ qs) hchosen.behind
          (Automaton.next (s.state ps.length) symbol)
        rw [set_append_ready, hchosen.spans] at hall
        split
        · rename_i s' hmerge
          have hmerged := reaches_mergeInto hall hmerge
          rw [eraseIdx_append_ready] at hmerged
          exact ih hmerged (hbase ▸ htail) hshorter
        · have hlength : (ps ++ [(⟨t, none⟩ : Post)]).length + removed = x.version + 1 := by
            rw [List.length_append, List.length_singleton]
            omega
          have hsplit : ps ++ ready (t :: qs) = ps ++ [⟨t, none⟩] ++ ready qs :=
            List.append_cons _ _ _
          rw [hsplit] at hall
          obtain ⟨k, hk⟩ := ih hall (hlength ▸ htail) hshorter
          refine ⟨k + 1, ?_⟩
          rw [List.append_assoc] at hk
          exact hk

theorem reaches_reduce {x : Post} (h : Reaches R s ps) (hv : ps[v]? = some x)
    (symbol : Symbol) (count precedence production : Nat) :
    ∃ k, Reaches R (reduce s v symbol count precedence production).1
        (ps ++ ready (List.replicate k x.place)) ∧
      ∀ w, (reduce s v symbol count precedence production).2 = some w → w = ps.length ∧ 0 < k := by
  obtain ⟨more, hreaches, hpending⟩ := h.popCount hv count
  rw [← Nat.add_zero ps.length] at hpending
  obtain ⟨k, hk⟩ := reaches_closeSlices v symbol precedence production
    (s.popCount v count).1.haltedCount hreaches hpending (Nat.lt_succ_self _)
  refine ⟨k, hk, ?_⟩
  intro w hw
  have hcount := hk.length
  rw [List.length_append, length_ready, List.length_replicate] at hcount
  unfold reduce at hw
  dsimp only at hw
  split_ifs at hw with hlt
  rw [← hcount, ← h.length] at hlt
  rw [← h.length, Option.some.injEq] at hw
  omega

end Machine

end Sketchbook.Syntax
