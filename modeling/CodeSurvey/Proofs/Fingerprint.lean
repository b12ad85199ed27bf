/-
  Which inputs share their bytes.

  The zero byte between a language tag and a source also stands for a zero within
  either of them, so the bytes tell where the tag ends only if the tag holds none.

  * `Fingerprint.RunsOn`: one tag goes on, behind a zero, with the start of the other
    input's source;
  * `Fingerprint.bytes_eq_iff`: inputs share their bytes exactly if they are the same
    or one tag runs on like this;
  * `Fingerprint.bytes_injective`, `Fingerprint.key_injective`: tags without zero are
    told apart, by the bytes and, where the digests of the bytes differ, by the key;
  * `Fingerprint.bytes_identify_iff`: which inputs are told apart;
  * `Fingerprint.bytes_eq_of_zero_in_tag`: two inputs that are not.
-/
import CodeSurvey.Fingerprint
import CodeSurvey.Proofs.Text.Utf8
import Mathlib.Data.List.Basic

namespace CodeSurvey.Fingerprint

variable {tag tag' source source' : Text}

/-- The second tag is the first one, a zero and the start of the first source, which goes on with a
    zero and the second source. -/
def RunsOn (tag source tag' source' : Text) : Prop :=
  ∃ middle, tag' = tag ++ 0 :: middle ∧ source = middle ++ 0 :: source'

/-- The bytes of an input are those of a text: the tag, a zero, and the source. -/
theorem bytes_eq_encode (tag source : Text) : bytes tag source = Utf8.encode (tag ++ 0 :: source) := by
  have hzero : Utf8.encodePoint 0 = [0] := rfl
  rw [Utf8.encode_append, Utf8.encode_cons, hzero]
  rfl

theorem RunsOn.append_eq (h : RunsOn tag source tag' source') :
    tag ++ 0 :: source = tag' ++ 0 :: source' := by
  obtain ⟨middle, rfl, rfl⟩ := h
  simp

theorem RunsOn.ne (h : RunsOn tag source tag' source') : tag ≠ tag' := by
  obtain ⟨middle, rfl, -⟩ := h
  simp

/-- A text with a zero at two places is taken apart at either of them. -/
theorem append_zero_eq_iff :
    tag ++ 0 :: source = tag' ++ 0 :: source' ↔
      (tag = tag' ∧ source = source') ∨ RunsOn tag source tag' source' ∨
        RunsOn tag' source' tag source := by
  constructor
  · intro h
    rcases List.append_eq_append_iff.1 h with ⟨rest, rfl, hs⟩ | ⟨rest, rfl, hs⟩
    · cases rest with
      | nil => exact Or.inl ⟨by simp, by simpa using hs⟩
      | cons c middle =>
        rw [List.cons_append, List.cons.injEq] at hs
        obtain ⟨rfl, hs⟩ := hs
        exact Or.inr (Or.inl ⟨middle, rfl, hs⟩)
    · cases rest with
      | nil => exact Or.inl ⟨by simp, by simpa using hs.symm⟩
      | cons c middle =>
        rw [List.cons_append, List.cons.injEq] at hs
        obtain ⟨rfl, hs⟩ := hs
        exact Or.inr (Or.inr ⟨middle, rfl, hs⟩)
  · rintro (⟨rfl, rfl⟩ | h | h)
    · rfl
    · exact h.append_eq
    · exact h.append_eq.symm

/-- **Inputs share their bytes exactly if they are the same or one tag runs on into the other's
    source.** -/
theorem bytes_eq_iff :
    bytes tag source = bytes tag' source' ↔
      (tag = tag' ∧ source = source') ∨ RunsOn tag source tag' source' ∨
        RunsOn tag' source' tag source := by
  rw [bytes_eq_encode, bytes_eq_encode, ← append_zero_eq_iff]
  exact ⟨Utf8.encode_injective, congrArg _⟩

/-- A tag that runs on holds a zero. -/
theorem RunsOn.zero_mem (h : RunsOn tag source tag' source') : 0 ∈ tag' := by
  obtain ⟨middle, rfl, -⟩ := h
  simp

/-- Inputs whose tags hold no zero are told apart by their bytes. -/
theorem bytes_injective (hz : 0 ∉ tag) (hz' : 0 ∉ tag')
    (h : bytes tag source = bytes tag' source') : tag = tag' ∧ source = source' := by
  rcases bytes_eq_iff.1 h with h | h | h
  · exact h
  · exact absurd h.zero_mem hz'
  · exact absurd h.zero_mem hz

/-! ## Keys -/

theorem ofChar_injective : Function.Injective CodePoint.ofChar := fun c d h =>
  have hn : (CodePoint.ofChar c).val = (CodePoint.ofChar d).val := congrArg Fin.val h
  Char.toNat_inj.1 hn

theorem ofString_injective : Function.Injective Text.ofString := fun _ _ h =>
  String.toList_injective (List.map_injective_iff.2 ofChar_injective h)

/-- Inputs whose tags hold no zero have keys of their own, unless their bytes differ and have the same
    digest. -/
theorem key_injective (hz : 0 ∉ tag) (hz' : 0 ∉ tag')
    (hdigest : Sha256.hex (bytes tag source) = Sha256.hex (bytes tag' source') →
      bytes tag source = bytes tag' source')
    (h : key tag source = key tag' source') : tag = tag' ∧ source = source' :=
  bytes_injective hz hz' (hdigest (ofString_injective h))

/-! ## Inputs that are told apart -/

/-- **Which inputs are told apart.**  Two inputs have the same bytes exactly if they are the same, unless
    the tag of one of them runs on, behind a zero, into the source of the other. -/
theorem bytes_identify_iff (tag source tag' source' : Text) :
    (bytes tag source = bytes tag' source' ↔ tag = tag' ∧ source = source') ↔
      ¬ RunsOn tag source tag' source' ∧ ¬ RunsOn tag' source' tag source := by
  rw [bytes_eq_iff]
  constructor
  · intro h
    refine ⟨fun hr => hr.ne (h.1 (Or.inr (Or.inl hr))).1, fun hr => hr.ne ?_⟩
    exact (h.1 (Or.inr (Or.inr hr))).1.symm
  · rintro ⟨h, h'⟩
    exact ⟨fun ho => ho.resolve_right (not_or.2 ⟨h, h'⟩), Or.inl⟩

/-- The tag of letters x and y with a zero between them and the source z have the bytes of the tag x
    and the source of y and z with a zero between them. -/
theorem bytes_eq_of_zero_in_tag :
    bytes [0x78, 0, 0x79] [0x7A] = bytes [0x78] [0x79, 0, 0x7A] ∧
      ¬ (([0x78, 0, 0x79] : Text) = [0x78] ∧ ([0x7A] : Text) = [0x79, 0, 0x7A]) := by
  decide

end CodeSurvey.Fingerprint
