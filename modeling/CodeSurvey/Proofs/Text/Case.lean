/-
  Texts in lower case.

  * `SameLetter`, `Text.SameLetters`: code points, and texts, that differ in the case of ASCII letters
    at most; `Text.lower_eq_of_sameLetters`: they have the same lower-case form;
  * `staysClear_runs`: the lower-case forms of the runs of capitals are in no run;
  * `IsSmall`, `isSmall_lowerSimple`: a code point that lower case leaves as it is, and that those it
    goes to are such; `Text.lower_eq_self_of_infix`: a piece of a text in lower case is in lower case.
-/
import CodeSurvey.Number.Numeral
import CodeSurvey.Text.Case
import Mathlib.Data.List.Basic
import Mathlib.Data.List.Forall2

namespace CodeSurvey

open Numeral (asciiLower)

variable {c d : CodePoint}

/-! ## ASCII letters -/

/-- The code points are the same, the case of ASCII letters aside. -/
def SameLetter (c d : CodePoint) : Prop :=
  asciiLower c = asciiLower d

/-- Whether a number is the code point of an ASCII letter. -/
def isLetter (n : Nat) : Bool :=
  (0x41 ≤ n && n ≤ 0x5A) || (0x61 ≤ n && n ≤ 0x7A)

theorem isLetter_iff {n : Nat} :
    isLetter n = true ↔ (0x41 ≤ n ∧ n ≤ 0x5A) ∨ (0x61 ≤ n ∧ n ≤ 0x7A) := by
  simp [isLetter]

theorem val_asciiLower (c : CodePoint) :
    (asciiLower c).val = if 0x41 ≤ c.val ∧ c.val ≤ 0x5A then c.val + 0x20 else c.val := by
  unfold asciiLower
  by_cases h : 0x41 ≤ c.val ∧ c.val ≤ 0x5A
  · have hlt : c.val + 0x20 < 0x110000 := by omega
    rw [if_pos (by simpa using h), if_pos h, Fin.val_add]
    exact Nat.mod_eq_of_lt hlt
  · rw [if_neg (by simpa using h), if_neg h]

/-- Code points that differ in case at most are the same, or both are ASCII letters. -/
theorem SameLetter.cases (h : SameLetter c d) :
    c = d ∨ isLetter c.val = true ∧ isLetter d.val = true := by
  have hval := congrArg Fin.val h
  rw [val_asciiLower, val_asciiLower] at hval
  rw [Fin.ext_iff, isLetter_iff, isLetter_iff]
  split at hval <;> split at hval <;> omega

theorem ignorableRanges_apart :
    (ignorableRanges.all fun r => Nat.blt 0x7A r.1 || Nat.blt r.2 0x41 ||
      (Nat.blt 0x5A r.1 && Nat.blt r.2 0x61)) = true := by
  decide +kernel

/-- The ASCII letters have case, and a word end does not look past them. -/
theorem cased_of_isLetter {n : Nat} (h : isLetter n = true) :
    inRanges casedRanges n = true ∧ inRanges ignorableRanges n = false := by
  rw [isLetter_iff] at h
  constructor
  · rw [inRanges, List.any_eq_true]
    rcases h with hcapital | hsmall
    · exact ⟨(0x41, 0x5A), List.mem_cons_self, by simpa using hcapital⟩
    · exact ⟨(0x61, 0x7A), List.mem_cons_of_mem _ List.mem_cons_self, by simpa using hsmall⟩
  · rw [inRanges, List.any_eq_false]
    intro r hr hin
    have hapart := List.all_eq_true.1 ignorableRanges_apart r hr
    simp only [Bool.or_eq_true, Bool.and_eq_true, Nat.blt_eq] at hapart
    simp only [Bool.and_eq_true, decide_eq_true_eq] at hin
    omega

theorem lowerSimple_of_isLetter (h : isLetter c.val = true) : lowerSimple c = asciiLower c := by
  rw [isLetter_iff] at h
  rw [lowerSimple, if_pos (by omega : c.val < 0x80)]
  rfl

theorem SameLetter.lowerSimple_eq (h : SameLetter c d) : lowerSimple c = lowerSimple d := by
  rcases h.cases with rfl | ⟨hc, hd⟩
  · rfl
  · rw [lowerSimple_of_isLetter hc, lowerSimple_of_isLetter hd]
    exact h

namespace Text

variable {t u piece before before' : Text}

/-- The texts are the same, the case of ASCII letters aside. -/
def SameLetters (t u : Text) : Prop :=
  List.Forall₂ SameLetter t u

theorem sameLetters_iff : SameLetters t u ↔ t.map asciiLower = u.map asciiLower := by
  rw [← List.forall₂_eq_eq_eq, List.forall₂_map_left_iff, List.forall₂_map_right_iff]
  rfl

/-- Whether a letter with case comes next does not depend on the case of letters. -/
theorem SameLetters.nextIsCased_eq (h : SameLetters t u) : nextIsCased t = nextIsCased u := by
  induction h with
  | nil => rfl
  | @cons c d t u hcd h ih =>
    rcases hcd.cases with rfl | ⟨hc, hd⟩
    · by_cases hskip : inRanges ignorableRanges c.val = true
      · simpa [nextIsCased, hskip] using ih
      · simp [nextIsCased, hskip]
    · simp [nextIsCased, cased_of_isLetter hc, cased_of_isLetter hd]

theorem lowerAfter_eq_of_sameLetters (hbefore : SameLetters before before')
    (h : SameLetters t u) : lowerAfter before t = lowerAfter before' u := by
  induction h generalizing before before' with
  | nil => rfl
  | @cons c d t u hcd h ih =>
    have hrest := ih (.cons hcd hbefore)
    rcases hcd.cases with rfl | ⟨hc, hd⟩
    · simp only [lowerAfter, hrest, hbefore.nextIsCased_eq, SameLetters.nextIsCased_eq h]
    · have hspecial : ∀ {c : CodePoint}, isLetter c.val = true → c.val ≠ 0x130 ∧ c.val ≠ 0x3A3 := by
        intro c hletter
        rw [isLetter_iff] at hletter
        omega
      simp only [lowerAfter, hspecial hc, hspecial hd, if_false, hcd.lowerSimple_eq, hrest]

/-- **The lower-case form of a text does not depend on the case of its ASCII letters.** -/
theorem lower_eq_of_sameLetters (h : SameLetters t u) : t.lower = u.lower :=
  lowerAfter_eq_of_sameLetters .nil h

end Text

/-! ## Runs of capitals -/

/-- A run of capitals: the first and the last one, the step between neighbours, and how far on their
    lower-case forms are. -/
abbrev Run := Nat × Nat × Nat × Int

/-- The number is in the run. -/
def InRun (r : Run) (n : Nat) : Prop :=
  r.1 ≤ n ∧ n ≤ r.2.1 ∧ (n - r.1) % r.2.2.1 = 0

/-- The lower-case form of a number of the run. -/
def shifted (r : Run) (n : Nat) : Nat :=
  (n + r.2.2.2).toNat

/-- Whether the lower-case forms of a run lie before or behind another one, or between its numbers. -/
def staysClear (r s : Run) : Bool :=
  Nat.blt (shifted r r.2.1) s.1 || Nat.blt s.2.1 (shifted r r.1) ||
    ((Nat.beq r.2.2.1 2 || Nat.beq r.1 r.2.1) && Nat.beq s.2.2.1 2 &&
      Nat.beq ((shifted r r.1 + s.1) % 2) 1)

theorem staysClear_runs : (lowerRuns.all fun r => lowerRuns.all fun s => staysClear r s) = true := by
  decide +kernel

/-- The lower-case forms of the runs are code points, and none is the dotted capital. -/
theorem shifted_bounds : ∀ r ∈ lowerRuns, 0 < shifted r r.1 ∧ shifted r r.2.1 < 0x110000 ∧
    (shifted r r.2.1 < 0x130 ∨ 0x130 < shifted r r.1) := by
  decide +kernel

theorem not_inRun_of_staysClear {r s : Run} {n : Nat} (hn : InRun r n) (hpos : 0 < shifted r r.1)
    (h : staysClear r s = true) : ¬ InRun s (shifted r n) := by
  obtain ⟨hfirst, hlast, hstep⟩ := hn
  rintro ⟨hfirst', hlast', hstep'⟩
  simp only [staysClear, shifted, Bool.or_eq_true, Bool.and_eq_true, Nat.blt_eq, Nat.beq_eq] at *
  rcases h with (hlow | hhigh) | ⟨⟨htwo | hone, htwo'⟩, hodd⟩
  · omega
  · omega
  · rw [htwo] at hstep
    rw [htwo'] at hstep'
    omega
  · rw [htwo'] at hstep'
    omega

/-- Lower case leaves a code point as it is, or goes from a run to its lower-case forms. -/
theorem lowerSimple_cases (c : CodePoint) :
    lowerSimple c = c ∨ ∃ r ∈ lowerRuns, InRun r c.val ∧ (lowerSimple c).val = shifted r c.val := by
  by_cases hascii : c.val < 0x80
  · by_cases hcapital : 0x41 ≤ c.val ∧ c.val ≤ 0x5A
    · have hsmall : (lowerSimple c).val = c.val + 32 := by
        rw [lowerSimple, if_pos hascii, if_pos (by simpa using hcapital), Fin.val_add]
        exact Nat.mod_eq_of_lt (by omega)
      refine .inr ⟨(0x41, 0x5A, 1, 32), List.mem_cons_self, ⟨hcapital.1, hcapital.2, ?_⟩, ?_⟩
      · exact Nat.mod_one _
      · rw [hsmall]
        show c.val + 32 = ((c.val : Int) + 32).toNat
        omega
    · rw [lowerSimple, if_pos hascii, if_neg (by simpa using hcapital)]
      exact .inl rfl
  · rw [lowerSimple, if_neg hascii]
    split
    · rename_i r hr
      right
      have hmem := List.mem_of_find?_eq_some hr
      have hrun := List.find?_some hr
      simp only [Bool.and_eq_true, decide_eq_true_eq, beq_iff_eq] at hrun
      obtain ⟨⟨hfirst, hlast⟩, hstep⟩ := hrun
      have hbound : shifted r c.val < 0x110000 := by
        have hlt := (shifted_bounds r hmem).2.1
        unfold shifted at hlt ⊢
        omega
      exact ⟨r, hmem, ⟨hfirst, hlast, hstep⟩, Nat.mod_eq_of_lt hbound⟩
    · exact .inl rfl

/-! ## Texts in lower case -/

/-- Lower case leaves the code point as it is, wherever it stands. -/
structure IsSmall (c : CodePoint) : Prop where
  fixed : lowerSimple c = c
  not_dotted : c.val ≠ 0x130
  not_sigma : c.val ≠ 0x3A3

theorem IsSmall.of_fixed (h : lowerSimple c = c) (hc : c.val ≠ 0x130) : IsSmall c := by
  refine ⟨h, hc, ?_⟩
  intro hsigma
  obtain rfl : c = 0x3A3 := Fin.ext hsigma
  exact absurd h (by decide +kernel)

/-- **What lower case goes to it leaves as it is.** -/
theorem isSmall_lowerSimple (hc : c.val ≠ 0x130) : IsSmall (lowerSimple c) := by
  rcases lowerSimple_cases c with hfixed | ⟨r, hr, hrun, hval⟩
  · rw [hfixed]
    exact .of_fixed hfixed hc
  · obtain ⟨hpos, -, hdotted⟩ := shifted_bounds r hr
    refine .of_fixed ?_ ?_
    · refine (lowerSimple_cases (lowerSimple c)).resolve_right ?_
      rintro ⟨s, hs, hrun', -⟩
      have hclear := List.all_eq_true.1 (List.all_eq_true.1 staysClear_runs r hr) s hs
      rw [hval] at hrun'
      exact not_inRun_of_staysClear hrun hpos hclear hrun'
    · rw [hval]
      obtain ⟨hfirst, hlast, -⟩ := hrun
      unfold shifted at *
      omega

namespace Text

variable {t u before : Text}

theorem isSmall_of_mem_lowerAfter (h : c ∈ lowerAfter before t) : IsSmall c := by
  induction t generalizing before with
  | nil => cases h
  | cons d t ih =>
    rw [lowerAfter, List.mem_append] at h
    rcases h with h | h
    · split at h
      · simp only [List.mem_cons, List.not_mem_nil, or_false] at h
        rcases h with rfl | rfl
        · exact .of_fixed (by decide +kernel) (by decide)
        · exact .of_fixed (by decide +kernel) (by decide)
      · rename_i hdotted
        split at h
        · split at h
          · rw [List.mem_singleton.1 h]
            exact .of_fixed (by decide +kernel) (by decide)
          · rw [List.mem_singleton.1 h]
            exact .of_fixed (by decide +kernel) (by decide)
        · rw [List.mem_singleton.1 h]
          exact isSmall_lowerSimple hdotted
    · exact ih h

theorem lowerAfter_eq_self (h : ∀ c ∈ t, IsSmall c) : lowerAfter before t = t := by
  induction t generalizing before with
  | nil => rfl
  | cons c t ih =>
    obtain ⟨hc, ht⟩ := List.forall_mem_cons.1 h
    simp [lowerAfter, hc.not_dotted, hc.not_sigma, hc.fixed, ih ht]

/-- **A piece of a text in lower case is in lower case.** -/
theorem lower_eq_self_of_infix (h : t <:+: u.lower) : t.lower = t :=
  lowerAfter_eq_self fun _ hc => isSmall_of_mem_lowerAfter (h.subset hc)

end Text

end CodeSurvey
