import Mathlib.Data.List.Perm.Basic
import Sketchbook.Report.Inspection

namespace Sketchbook.Report

open Sketchbook.Text

def Space (cs : List Char) : Prop := ∀ c ∈ cs, c = ' ' ∨ c = '\t' ∨ c = '\n' ∨ c = '\r'

def shortForms : List (Char × Char) :=
  [('"', '"'), ('\\', '\\'), ('/', '/'), ('b', '\x08'), ('f', '\x0c'), ('n', '\n'), ('r', '\r'),
    ('t', '\t')]

def HexValue (c : Char) (n : Nat) : Prop :=
  "0123456789abcdef".toList[n]? = some c ∨ "0123456789ABCDEF".toList[n]? = some c

/-- What stands between quotes, with the text that is meant. -/
inductive Spells : List Char → List Char → Prop where
  | nil : Spells [] []
  | plain {c : Char} {cs ds : List Char} (hc : 32 ≤ c.toNat) (hq : c ≠ '"') (hb : c ≠ '\\')
      (h : Spells cs ds) : Spells (c :: cs) (c :: ds)
  | short {c d : Char} {cs ds : List Char} (hd : (c, d) ∈ shortForms) (h : Spells cs ds) :
      Spells ('\\' :: c :: cs) (d :: ds)
  | code {x₁ x₂ x₃ x₄ d : Char} {n₁ n₂ n₃ n₄ : Nat} {cs ds : List Char} (h₁ : HexValue x₁ n₁)
      (h₂ : HexValue x₂ n₂) (h₃ : HexValue x₃ n₃) (h₄ : HexValue x₄ n₄)
      (hd : d.toNat = ((n₁ * 16 + n₂) * 16 + n₃) * 16 + n₄) (h : Spells cs ds) :
      Spells ('\\' :: 'u' :: x₁ :: x₂ :: x₃ :: x₄ :: cs) (d :: ds)

/-- The digits of a number. Only zero begins with a zero. -/
structure Numeral (cs : List Char) (n : Nat) : Prop where
  nonempty : cs ≠ []
  digits : ∀ c ∈ cs, c.isDigit = true
  leading : cs.head? = some '0' → cs = ['0']
  value : Nat.ofDigitChars 10 cs 0 = n

/-- Parts of a document with commas between them. -/
inductive Separated {α : Type} (P : List Char → α → Prop) : List Char → List α → Prop where
  | one {u cs v : List Char} {a : α} (hu : Space u) (h : P cs a) (hv : Space v) :
      Separated P (u ++ cs ++ v) [a]
  | more {u cs v rest : List Char} {a : α} {as : List α} (hu : Space u) (h : P cs a) (hv : Space v)
      (hrest : Separated P rest as) : Separated P (u ++ cs ++ v ++ ',' :: rest) (a :: as)

/-- A name and what stands under it, with a colon between them. -/
inductive Named {α : Type} (P : List Char → α → Prop) : List Char → String × α → Prop where
  | mk {ns u v cs : List Char} {n : String} {a : α} (hn : Spells ns n.toList) (hu : Space u)
      (hv : Space v) (h : P cs a) : Named P ('"' :: ns ++ ['"'] ++ u ++ ':' :: (v ++ cs)) (n, a)

/-- A text says something in JSON. -/
inductive Says : List Char → Datum → Prop where
  | null : Says "null".toList .null
  | yes : Says "true".toList (.flag true)
  | no : Says "false".toList (.flag false)
  | natural {cs : List Char} {n : Nat} (h : Numeral cs n) : Says cs (.number n)
  | negative {cs : List Char} {n : Nat} (h : Numeral cs n) : Says ('-' :: cs) (.number (-n))
  | text {cs : List Char} {s : String} (h : Spells cs s.toList) :
    Says ('"' :: cs ++ ['"']) (.text s)
  | emptyList {cs : List Char} (h : Space cs) : Says ('[' :: cs ++ [']']) (.list [])
  | list {cs : List Char} {ds : List Datum} (h : Separated Says cs ds) :
      Says ('[' :: cs ++ [']']) (.list ds)
  | emptyRecord {cs : List Char} (h : Space cs) : Says ('\x7b' :: cs ++ ['\x7d']) (.record [])
  | record {cs : List Char} {es es' : List (String × Datum)} (h : Separated (Named Says) cs es')
      (hes : es'.Perm es) : Says ('\x7b' :: cs ++ ['\x7d']) (.record es)

def IsDocument (cs : List Char) (d : Datum) : Prop :=
  ∃ u v w, cs = u ++ v ++ w ∧ Space u ∧ Says v d ∧ Space w

theorem space_nil : Space [] := fun _ hc => nomatch hc

theorem space_lineBreak (level : Nat) : Space (lineBreak level).toList := by
  intro c hc
  rw [lineBreak, String.toList_append, List.mem_append] at hc
  rcases hc with hc | hc
  · exact .inr (.inr (.inl (List.mem_singleton.mp hc)))
  · exact .inl (List.eq_of_mem_replicate (String.toList_ofList ▸ hc))

section Texts

theorem hexValue_hexDigit : ∀ n < 16, HexValue (hexDigit n) n := by
  unfold HexValue
  decide

theorem hexText_four :
    ∀ n < 32, hexText 4 n = ['0', '0', hexDigit (n / 16), hexDigit (n % 16)] := by
  decide

theorem spells_control {c : Char} {cs ds : List Char} (hc : c.toNat < 32) (h : Spells cs ds) :
    Spells ('\\' :: 'u' :: hexText 4 c.toNat ++ cs) (c :: ds) := by
  rw [hexText_four _ hc]
  refine .code (hexValue_hexDigit 0 (by omega)) (hexValue_hexDigit 0 (by omega))
    (hexValue_hexDigit _ (by omega)) (hexValue_hexDigit _ (by omega)) ?_ h
  omega

theorem spells_escape (c : Char) {cs ds : List Char} (h : Spells cs ds) :
    Spells (escape c ++ cs) (c :: ds) := by
  unfold escape
  split_ifs with hquote hn hr ht hb hf hcontrol
  · rcases Bool.or_eq_true_iff.mp hquote with hc | hc
    · obtain rfl := of_decide_eq_true hc
      exact .short (by decide) h
    · obtain rfl := of_decide_eq_true hc
      exact .short (by decide) h
  · exact hn ▸ .short (by decide) h
  · exact hr ▸ .short (by decide) h
  · exact ht ▸ .short (by decide) h
  · exact hb ▸ .short (by decide) h
  · exact hf ▸ .short (by decide) h
  · exact spells_control hcontrol h
  · rw [Bool.or_eq_true_iff, decide_eq_true_iff, decide_eq_true_iff, not_or] at hquote
    exact .plain (Nat.le_of_not_lt hcontrol) hquote.1 hquote.2 h

theorem spells_flatMap_escape (cs : List Char) : Spells (cs.flatMap escape) cs := by
  induction cs with
  | nil => exact .nil
  | cons c cs ih => exact spells_escape c ih

theorem toList_textLiteral (s : String) :
    (textLiteral s).toList = '"' :: s.toList.flatMap escape ++ ['"'] := String.toList_ofList

end Texts

section Numbers

theorem toDigits_eq_of_head?_eq (n : Nat) (h : (Nat.toDigits 10 n).head? = some '0') :
    Nat.toDigits 10 n = ['0'] := by
  induction n using Nat.strongRecOn with
  | _ n ih =>
    by_cases hn : n < 10
    · rw [Nat.toDigits_of_lt_base hn] at h ⊢
      rw [Option.some.inj h]
    · have hle : 10 ≤ n := by omega
      rw [Nat.toDigits_of_base_le (by omega) hle,
        List.head?_append_of_ne_nil _ Nat.toDigits_ne_nil] at h
      -- the number without its last digit would be zero
      have hlead := ih (n / 10) (by omega) h
      have hvalue := Nat.ofDigitChars_ten_toDigits (n := n / 10)
      rw [hlead] at hvalue
      have : n / 10 = 0 := by rw [← hvalue]; rfl
      omega

theorem numeral_repr (n : Nat) : Numeral (toString n).toList n := by
  rw [Nat.toString_eq_ofList_toDigits, String.toList_ofList]
  exact ⟨Nat.toDigits_ne_nil, fun c hc => Nat.isDigit_of_mem_toDigits (by omega) (by omega) hc,
    toDigits_eq_of_head?_eq n, Nat.ofDigitChars_ten_toDigits⟩

theorem says_number (n : Int) : Says (toString n).toList (.number n) := by
  cases n with
  | ofNat n => exact .natural (numeral_repr n)
  | negSucc n =>
    rw [show toString (Int.negSucc n) = "-" ++ toString (n + 1) from rfl, String.toList_append]
    exact .negative (numeral_repr (n + 1))

end Numbers

section Brackets

variable {opening closing : String} {level : Nat} {parts : List String}

def within (level : Nat) (parts : List String) : List Char :=
  (lineBreak (level + 1)).toList ++ (("," ++ lineBreak (level + 1)).intercalate parts).toList ++
    (lineBreak level).toList

theorem toList_bracketed_nil :
    (bracketed opening closing level []).toList = opening.toList ++ closing.toList :=
  String.toList_append

theorem toList_bracketed (h : parts ≠ []) :
    (bracketed opening closing level parts).toList =
      opening.toList ++ within level parts ++ closing.toList := by
  cases parts with
  | nil => exact absurd rfl h
  | cons p ps =>
    simp only [bracketed, List.isEmpty_cons, Bool.false_eq_true, if_false, String.toList_append,
      within, List.append_assoc]

theorem separated_intercalate {α : Type} {P : List Char → α → Prop} {u v : List Char} {as : List α}
    (hparts : parts ≠ []) (hu : Space u) (hv : Space v)
    (h : List.Forall₂ (fun p a => P p.toList a) parts as) :
    Separated P (u ++ (("," ++ lineBreak level).intercalate parts).toList ++ v) as := by
  induction h generalizing u with
  | nil => exact absurd rfl hparts
  | cons hp hrest ih =>
    cases hrest with
    | nil =>
      rw [String.intercalate_singleton]
      exact .one hu hp hv
    | cons hp' hrest =>
      rw [String.intercalate_cons_cons]
      have hstep := Separated.more hu hp space_nil
        (ih (List.cons_ne_nil _ _) (space_lineBreak level))
      simpa only [String.toList_append, List.append_assoc, List.nil_append, List.cons_append,
        show ",".toList = [','] from rfl] using hstep

theorem separated_within {α : Type} {P : List Char → α → Prop} {as : List α} (hparts : parts ≠ [])
    (h : List.Forall₂ (fun p a => P p.toList a) parts as) : Separated P (within level parts) as :=
  separated_intercalate hparts (space_lineBreak (level + 1)) (space_lineBreak level) h

end Brackets

section Records

theorem insertEntry_perm (e : String × String) (es : List (String × String)) :
    (insertEntry e es).Perm (e :: es) := by
  induction es with
  | nil => exact .refl _
  | cons x xs ih =>
    unfold insertEntry
    split_ifs
    · exact .refl _
    · exact (ih.cons x).trans (.swap e x xs)

theorem sortEntries_perm (es : List (String × String)) : (sortEntries es).Perm es := by
  induction es with
  | nil => exact .refl _
  | cons e es ih => exact (insertEntry_perm e _).trans (ih.cons e)

def entryText (e : String × String) : String := textLiteral e.1 ++ ": " ++ e.2

theorem named_entryText {e : String × String} {d : Datum} (h : Says e.2.toList d) :
    Named Says (entryText e).toList (e.1, d) := by
  have hspace : Space [' '] := fun c hc => .inl (List.mem_singleton.mp hc)
  have hnamed := Named.mk (spells_flatMap_escape e.1.toList) space_nil hspace h
  rw [entryText, String.toList_append, String.toList_append, toList_textLiteral]
  simpa only [List.append_assoc, List.append_nil, List.nil_append, List.cons_append,
    show ": ".toList = [':', ' '] from rfl] using hnamed

theorem exists_named_of_forall₂ {rendered : List (String × String)} {es : List (String × Datum)}
    (h : List.Forall₂ (fun r e => r.1 = e.1 ∧ Says r.2.toList e.2) rendered es) :
    ∃ es', es'.Perm es ∧
      List.Forall₂ (fun p e => Named Says p.toList e)
        ((sortEntries rendered).map entryText) es' := by
  obtain ⟨es', hes', hperm⟩ := List.perm_comp_forall₂ (sortEntries_perm rendered) h
  refine ⟨es', hperm, List.forall₂_map_left_iff.mpr (hes'.imp ?_)⟩
  rintro ⟨n, r⟩ ⟨n', d⟩ ⟨rfl, hr⟩
  exact named_entryText hr

end Records

mutual

theorem says_render (level : Nat) : ∀ d : Datum, Says (d.render level).toList d
  | .null => .null
  | .flag true => .yes
  | .flag false => .no
  | .number n => says_number n
  | .text s => by
    rw [Datum.render, toList_textLiteral]
    exact .text (spells_flatMap_escape s.toList)
  | .list ds => by
    rw [Datum.render]
    have hds := says_renderItems (level + 1) ds
    generalize renderItems (level + 1) ds = parts at hds
    by_cases hparts : parts = []
    · subst hparts
      cases hds
      rw [toList_bracketed_nil]
      exact .emptyList space_nil
    · rw [toList_bracketed hparts]
      exact .list (separated_within hparts hds)
  | .record es => by
    rw [Datum.render]
    -- the entries are sorted before they are written, so the document has them in another order
    change Says (bracketed _ _ level ((sortEntries _).map entryText)).toList _
    obtain ⟨es', hperm, hes'⟩ := exists_named_of_forall₂ (says_renderEntries (level + 1) es)
    generalize (sortEntries (renderEntries (level + 1) es)).map entryText = parts at hes'
    by_cases hparts : parts = []
    · subst hparts
      cases hes'
      rw [toList_bracketed_nil, List.nil_perm.mp hperm]
      exact .emptyRecord space_nil
    · rw [toList_bracketed hparts]
      exact .record (separated_within hparts hes') hperm

theorem says_renderItems (level : Nat) :
    ∀ ds : List Datum, List.Forall₂ (fun p d => Says p.toList d) (renderItems level ds) ds
  | [] => .nil
  | d :: ds => .cons (says_render level d) (says_renderItems level ds)

theorem says_renderEntries (level : Nat) : ∀ es : List (String × Datum),
    List.Forall₂ (fun r e => r.1 = e.1 ∧ Says r.2.toList e.2) (renderEntries level es) es
  | [] => .nil
  | (_, d) :: es => .cons ⟨rfl, says_render level d⟩ (says_renderEntries level es)

end

theorem isDocument_render (d : Datum) : IsDocument (d.render 0 ++ "\n").toList d := by
  refine ⟨[], (d.render 0).toList, ['\n'], ?_, space_nil, says_render 0 d, ?_⟩
  · rw [String.toList_append, List.nil_append]
    rfl
  · exact fun c hc => .inr (.inr (.inl (List.mem_singleton.mp hc)))

end Sketchbook.Report
