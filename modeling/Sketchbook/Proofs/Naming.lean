import Mathlib.Data.List.TakeWhile
import Sketchbook.Proofs.Ending
import Sketchbook.Text.Digit

namespace Sketchbook

open Sketchbook.Text

theorem Text.isDecimal_eq_isDigit {c : Char} (h : isAsciiWord c = true) :
    isDecimal c = c.isDigit := by
  have table : ∀ n : Fin 128, isDecimal (Char.ofNat n) = (Char.ofNat n).isDigit := by
    decide +kernel
  simpa using table ⟨c.toNat, toNat_lt_of_isAsciiWord h⟩

theorem Text.head?_toList_append {s t : String} {c : Char} (h : s.toList.head? = some c) :
    (s ++ t).toList.head? = some c := by
  rw [String.toList_append, List.head?_append, h, Option.some_or]

namespace ClassName

variable {name : String}

/-- A name that can be read as a path without being changed: it is valid, and of what may stand in
the name of a class only the dollar sign is replaced in the name of a file. -/
structure Plain (name : String) : Prop where
  valid : isValid name = true
  clean : '$' ∉ name.toList

/-- The characters of the name of a file, each that is no ASCII word character replaced. -/
def letters (path : String) : List Char :=
  (stem path).toList.map fun c => if isAsciiWord c then c else '_'

theorem isAsciiWord_of_mem_letters {path : String} :
    ∀ c ∈ letters path, isAsciiWord c = true := by
  intro c hc
  obtain ⟨d, -, rfl⟩ := List.mem_map.mp hc
  split_ifs with hd
  · exact hd
  · decide

/-- A name is made of the letters of the path. An underscore is put in front of them if there is none
or the first is a digit. -/
theorem toList_ofPath (path : String) : (ofPath path).toList =
    if (letters path).head?.all Char.isDigit then '_' :: letters path else letters path := by
  unfold ofPath letters
  generalize ((stem path).toList.map fun c => if isAsciiWord c then c else '_') = cs
  cases cs with
  | nil => rfl
  | cons c cs =>
    dsimp only
    rw [List.head?_cons, Option.all_some]
    split_ifs
    · exact String.toList_ofList
    · exact String.toList_ofList

theorem isAsciiWord_of_mem_ofPath {path : String} :
    ∀ c ∈ (ofPath path).toList, isAsciiWord c = true := by
  intro c hc
  rw [toList_ofPath] at hc
  split_ifs at hc
  · rcases List.mem_cons.mp hc with rfl | hc
    · decide
    · exact isAsciiWord_of_mem_letters c hc
  · exact isAsciiWord_of_mem_letters c hc

theorem plain_ofPath (path : String) : Plain (ofPath path) where
  valid := isValid_ofPath path
  clean hmem := absurd (isAsciiWord_of_mem_ofPath '$' hmem) (by decide)

theorem exists_toList_eq_of_isValid (h : isValid name = true) :
    ∃ c cs, name.toList = c :: cs ∧ isFirst c = true ∧ ∀ d ∈ cs, isRest d = true := by
  unfold isValid at h
  cases hname : name.toList with
  | nil =>
    rw [hname] at h
    cases h
  | cons c cs =>
    rw [hname] at h
    obtain ⟨hfirst, hrest⟩ := Bool.and_eq_true_iff.mp h
    exact ⟨c, cs, rfl, hfirst, List.all_eq_true.mp hrest⟩

theorem isRest_of_isFirst {c : Char} (h : isFirst c = true) : isRest c = true := by
  unfold isFirst at h
  unfold isRest Char.isAlphanum
  simp only [Bool.or_eq_true] at h ⊢
  tauto

theorem isAsciiWord_of_isRest {c : Char} (h : isRest c = true) (hc : c ≠ '$') :
    isAsciiWord c = true := by
  unfold isRest at h
  unfold isAsciiWord
  simpa [hc] using h

theorem Plain.isAsciiWord_of_mem (h : Plain name) : ∀ c ∈ name.toList, isAsciiWord c = true := by
  obtain ⟨c, cs, hname, hfirst, hrest⟩ := exists_toList_eq_of_isValid h.valid
  have hclean := h.clean
  rw [hname] at hclean ⊢
  intro d hd
  have hd' : d ≠ '$' := fun heq => hclean (heq ▸ hd)
  rcases List.mem_cons.mp hd with rfl | hd
  · exact isAsciiWord_of_isRest (isRest_of_isFirst hfirst) hd'
  · exact isAsciiWord_of_isRest (hrest d hd) hd'

theorem pathParts_of_plain (h : Plain name) : pathParts name = [name] := by
  obtain ⟨c, cs, hname, hfirst, -⟩ := exists_toList_eq_of_isValid h.valid
  have hslash : '/' ∉ name.toList := fun hmem =>
    absurd (h.isAsciiWord_of_mem '/' hmem) (by decide)
  have hempty : name ≠ "" := by
    rintro rfl
    cases hname
  have hdot : name ≠ "." := by
    rintro rfl
    obtain ⟨rfl, -⟩ := List.cons.inj hname
    exact absurd hfirst (by decide)
  rw [pathParts, List.splitOn_eq_singleton hslash, List.map_singleton, String.ofList_toList,
    List.filter_singleton]
  simp [hempty, hdot]

theorem stemOf_of_not_mem (h : '.' ∉ name.toList) : stemOf name = name := by
  have hall : ∀ c ∈ name.toList.reverse, decide (c ≠ '.') = true := by
    intro c hc
    rw [decide_eq_true_iff]
    rintro rfl
    exact h (List.mem_reverse.mp hc)
  have hsuffix : name.toList.reverse.takeWhile (· ≠ '.') = name.toList.reverse := by
    rw [List.takeWhile_eq_self_iff]
    exact hall
  unfold stemOf
  dsimp only
  rw [hsuffix, List.length_reverse, Nat.sub_self]
  rfl

theorem stem_of_plain (h : Plain name) : stem name = name := by
  have hdot : '.' ∉ name.toList := fun hmem => absurd (h.isAsciiWord_of_mem '.' hmem) (by decide)
  rw [stem, pathParts_of_plain h]
  exact stemOf_of_not_mem hdot

theorem letters_of_plain (h : Plain name) : letters name = name.toList := by
  rw [letters, stem_of_plain h]
  conv_rhs => rw [← List.map_id name.toList]
  apply List.map_congr_left
  intro c hc
  rw [if_pos (h.isAsciiWord_of_mem c hc), id]

theorem isDigit_of_isFirst {c : Char} (h : isFirst c = true) : c.isDigit = false := by
  unfold isFirst Char.isAlpha Char.isUpper Char.isLower at h
  simp only [Bool.or_eq_true, Bool.and_eq_true, decide_eq_true_eq, ge_iff_le,
    UInt32.le_iff_toNat_le] at h
  -- the digits stand in front of the letters
  have hbig {k : Nat} (hk : 57 < k) (hle : k ≤ c.val.toNat) : c.isDigit = false := by
    rw [Char.isDigit, Bool.and_eq_false_iff]
    right
    rw [decide_eq_false_iff_not, UInt32.le_iff_toNat_le]
    exact Nat.not_le.mpr (Nat.lt_of_lt_of_le hk hle)
  rcases h with (((⟨hle, -⟩ | ⟨hle, -⟩) | rfl) | rfl)
  · exact hbig (by decide) hle
  · exact hbig (by decide) hle
  · decide
  · decide

theorem ofPath_of_plain (h : Plain name) : ofPath name = name := by
  obtain ⟨c, cs, hname, hfirst, -⟩ := exists_toList_eq_of_isValid h.valid
  have hdigit : ¬(name.toList.head?.all Char.isDigit = true) := by
    rw [hname, List.head?_cons, Option.all_some, isDigit_of_isFirst hfirst]
    exact Bool.false_ne_true
  apply String.toList_inj.mp
  rw [toList_ofPath, letters_of_plain h, if_neg hdigit]

theorem ofPath_eq_self_iff : ofPath name = name ↔ Plain name :=
  ⟨fun h => h ▸ plain_ofPath name, ofPath_of_plain⟩

end ClassName

namespace Cli

variable {w : World} {r : Request} {path : Path} {c : Config} {text : String}

theorem deliver_ne_one (w : World) (code : String) (encodable : Bool) (stderr : String)
    (out? : Option Word) : (deliver w code encodable stderr out?).exit ≠ .code 1 := by
  unfold deliver
  repeat' split
  all_goals exact nofun

theorem process_ne_one (w : World) (r : Request) (path : Path) (c : Config) (text : String) :
    (process w r path c text).exit ≠ .code 1 := by
  cases hg : r.made path c text with
  | error e =>
    obtain ⟨stderr, hrun⟩ := process_of_error (w := w) hg
    rw [hrun]
    exact nofun
  | ok g =>
    obtain ⟨stderr, hrun⟩ := process_of_ok (w := w) hg
    rw [hrun]
    cases r.command with
    | transpile => exact deliver_ne_one w g.code _ stderr r.out?
    | inspect => exact nofun

theorem exists_reported_run {words : List Word} (h : (run w words).exit = .code 1) :
    ∃ m, Reported m ∧ run w words = failed m := by
  cases hr : Request.ofWords words with
  | error e =>
    unfold run at h
    rw [hr] at h
    cases e <;> cases h
  | ok r =>
    cases reaches_run (w := w) hr with
    | report hm hrun => exact ⟨_, hm, hrun⟩
    | failure hk hrun =>
      rw [hrun] at h
      cases h
    | sketch hreads htext =>
      rw [run_eq_process hr hreads htext] at h
      exact absurd h (process_ne_one w r _ _ _)

theorem Reported.ne_invalidName {m : String} (h : Reported m) (n : String) :
    m ≠ invalidNameMessage n := by
  have hquote : (invalidNameMessage n).toList.head? = some '\'' := by
    unfold invalidNameMessage
    exact head?_toList_append (head?_toList_append (by decide))
  have hhead : m.toList.head? = some 'c' ∨ m.toList.head? = some 'I' := by
    cases h with
    | unreadable path p e =>
      left
      exact head?_toList_append (head?_toList_append (head?_toList_append (by decide)))
    | malformed path m =>
      right
      unfold Config.malformedMessage
      exact head?_toList_append (head?_toList_append (head?_toList_append (by decide)))
    | refused path details issues =>
      right
      unfold Config.refusedMessage
      exact head?_toList_append (head?_toList_append (head?_toList_append
        (head?_toList_append (by decide))))
  rintro rfl
  rw [hquote] at hhead
  exact absurd hhead (by decide)

theorem failed_inj {m m' : String} (h : failed m = failed m') : m = m' := by
  have hsaid : "error: " ++ m ++ "\n" = "error: " ++ m' ++ "\n" := congrArg Outcome.stderr h
  rw [String.append_left_inj, String.append_right_inj] at hsaid
  exact hsaid

theorem run_ne_invalidName (w : World) (words : List Word) (n : String) :
    run w words ≠ failed (invalidNameMessage n) := by
  intro h
  have hexit : (run w words).exit = .code 1 := by
    rw [h]
    rfl
  obtain ⟨m, hm, hrun⟩ := exists_reported_run hexit
  exact hm.ne_invalidName n (failed_inj (hrun.symm.trans h))

end Cli

open Settings in
/-- The class for a sketch has a valid name wherever the sketch lies, so that neither a class file nor
a run fails for the name. It is made of ASCII word characters, so it does not matter of which script
the digits are that may not stand at its front. A name that was made is made again from itself, and
the texts that are kept are the valid names without a dollar sign. -/
theorem named_after_any_path (path : String) :
    ClassName.isValid (ClassName.ofPath path) = true ∧
    (∀ c ∈ ClassName.letters path, isDecimal c = c.isDigit) ∧
    ClassName.ofPath (ClassName.ofPath path) = ClassName.ofPath path ∧
    (ClassName.ofPath path = path ↔ ClassName.isValid path = true ∧ '$' ∉ path.toList) ∧
    (∀ (σ : Type) (report : σ → Warning → σ) (source : Bytes) (package? : Option String)
      (c : Config) (log : σ) (n : String),
      (generateWith report source (ClassName.ofPath path) package? c log).1 ≠
        .error (.invalidName n)) ∧
    ∀ (w : Cli.World) (words : List Cli.Word) (n : String),
      Cli.run w words ≠ Cli.failed (invalidNameMessage n) := by
  have hplain := ClassName.plain_ofPath path
  refine ⟨hplain.valid, ?_, ClassName.ofPath_of_plain hplain, ?_, ?_, Cli.run_ne_invalidName⟩
  · intro c hc
    exact isDecimal_eq_isDigit (ClassName.isAsciiWord_of_mem_letters c hc)
  · rw [ClassName.ofPath_eq_self_iff]
    exact ⟨fun h => ⟨h.valid, h.clean⟩, fun ⟨hvalid, hclean⟩ => ⟨hvalid, hclean⟩⟩
  · intro σ report source package? c log n
    rw [generateWith_fst]
    exact generate_ne_invalidName hplain.valid n

/-- Paths without a name, a hidden file, and a name of digits that are none of ASCII. -/
example : ["", "./..//", ".pde", "a.b/2024 demo.tar.gz", "٣D", "_x1"].map ClassName.ofPath =
    ["_", "__", "_pde", "_2024_demo_tar", "_D", "_x1"] := by
  decide +kernel

end Sketchbook
