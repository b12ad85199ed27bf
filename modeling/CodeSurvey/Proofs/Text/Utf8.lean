/-
  Every text is read back from its bytes.

  * `Utf8.readPoint?`: the code point whose form begins some bytes, surrogates
    included, and the bytes that follow;
  * `Utf8.readPoint?_encodePoint`: a form is read back, whatever comes after it;
  * `Utf8.encode_injective`: texts with the same bytes are the same text;
  * `Utf8.count_encode`: an ASCII byte stands for a code point of its own only.
-/
import CodeSurvey.Text.Utf8

namespace CodeSurvey.Utf8

/-- The number whose form begins some bytes, and what follows the form.  The first byte tells how
    long the form is; each of the others carries six bits. -/
def readPoint? : List UInt8 → Option (Nat × List UInt8)
  | [] => none
  | a :: rest =>
    if a.toNat < 0x80 then some (a.toNat, rest)
    else if a.toNat < 0xE0 then
      match rest with
      | b :: rest => some (a.toNat % 0x20 * 0x40 + b.toNat % 0x40, rest)
      | _ => none
    else if a.toNat < 0xF0 then
      match rest with
      | b :: c :: rest =>
        some ((a.toNat % 0x10 * 0x40 + b.toNat % 0x40) * 0x40 + c.toNat % 0x40, rest)
      | _ => none
    else
      match rest with
      | b :: c :: d :: rest =>
        some (((a.toNat % 0x08 * 0x40 + b.toNat % 0x40) * 0x40 + c.toNat % 0x40) * 0x40 +
          d.toNat % 0x40, rest)
      | _ => none

theorem toNat_toUInt8 {n : Nat} (h : n < 0x100) : n.toUInt8.toNat = n := by
  rw [Nat.toUInt8, UInt8.toNat_ofNat']
  exact Nat.mod_eq_of_lt h

/-- The value of a byte that continues a form. -/
theorem toNat_continuation (n : Nat) : (0x80 + n % 0x40).toUInt8.toNat = 0x80 + n % 0x40 :=
  toNat_toUInt8 (by omega)

/-- **The form of a code point is read back, whatever comes after it.** -/
theorem readPoint?_encodePoint (c : CodePoint) (rest : List UInt8) :
    readPoint? (encodePoint c ++ rest) = some (c.val, rest) := by
  have hc : c.val < 0x110000 := c.isLt
  unfold encodePoint
  split
  · rename_i h1
    have ha : c.val.toUInt8.toNat = c.val := toNat_toUInt8 (by omega)
    simp only [List.cons_append, List.nil_append, readPoint?, ha, if_pos h1]
  split
  · rename_i h1 h2
    have ha : (0xC0 + c.val / 0x40).toUInt8.toNat = 0xC0 + c.val / 0x40 := toNat_toUInt8 (by omega)
    simp only [List.cons_append, List.nil_append, readPoint?, ha, toNat_continuation]
    rw [if_neg (by omega), if_pos (by omega)]
    congr 2
    omega
  split
  · rename_i h1 h2 h3
    have ha : (0xE0 + c.val / 0x1000).toUInt8.toNat = 0xE0 + c.val / 0x1000 :=
      toNat_toUInt8 (by omega)
    simp only [List.cons_append, List.nil_append, readPoint?, ha, toNat_continuation]
    rw [if_neg (by omega), if_neg (by omega), if_pos (by omega)]
    congr 2
    omega
  · rename_i h1 h2 h3
    have ha : (0xF0 + c.val / 0x40000).toUInt8.toNat = 0xF0 + c.val / 0x40000 :=
      toNat_toUInt8 (by omega)
    simp only [List.cons_append, List.nil_append, readPoint?, ha, toNat_continuation]
    rw [if_neg (by omega), if_neg (by omega), if_neg (by omega)]
    congr 2
    omega

/-- Where two texts' bytes agree, their first code points do, and so do the bytes behind these. -/
theorem encodePoint_append_inj {c d : CodePoint} {xs ys : List UInt8}
    (h : encodePoint c ++ xs = encodePoint d ++ ys) : c = d ∧ xs = ys := by
  have hr := readPoint?_encodePoint c xs
  rw [h, readPoint?_encodePoint] at hr
  obtain ⟨hv, hx⟩ := Prod.mk.inj (Option.some.inj hr)
  exact ⟨Fin.ext hv.symm, hx.symm⟩

theorem encodePoint_ne_nil (c : CodePoint) : encodePoint c ≠ [] := by
  intro h
  have hr := readPoint?_encodePoint c []
  rw [h] at hr
  cases hr

theorem encode_cons (c : CodePoint) (t : Text) : encode (c :: t) = encodePoint c ++ encode t :=
  rfl

theorem encode_append (t u : Text) : encode (t ++ u) = encode t ++ encode u :=
  List.flatMap_append

/-- **Texts with the same bytes are the same text.**  Surrogates have forms of their own, so this is
    so for all lists of code points. -/
theorem encode_injective {t u : Text} (h : encode t = encode u) : t = u := by
  induction t generalizing u with
  | nil =>
    cases u with
    | nil => rfl
    | cons d u => exact absurd (List.append_eq_nil_iff.1 h.symm).1 (encodePoint_ne_nil d)
  | cons c t ih =>
    cases u with
    | nil => exact absurd (List.append_eq_nil_iff.1 h).1 (encodePoint_ne_nil c)
    | cons d u =>
      rw [encode_cons, encode_cons] at h
      obtain ⟨rfl, ht⟩ := encodePoint_append_inj h
      rw [ih ht]

/-- Longer forms are made of bytes beyond ASCII. -/
theorem le_of_mem_encodePoint {c : CodePoint} (hc : 0x80 ≤ c.val) :
    ∀ b ∈ encodePoint c, 0x80 ≤ b.toNat := by
  have hlt : c.val < 0x110000 := c.isLt
  have hlead : ∀ n, 0x80 ≤ n → n < 0x100 → 0x80 ≤ n.toUInt8.toNat := by
    intro n hn hlt
    rwa [toNat_toUInt8 hlt]
  have hcont : ∀ n, 0x80 ≤ (0x80 + n % 0x40).toUInt8.toNat := by
    intro n
    rw [toNat_continuation]
    omega
  intro b hb
  unfold encodePoint at hb
  rw [if_neg (by omega)] at hb
  split at hb
  · simp only [List.mem_cons, List.not_mem_nil, or_false] at hb
    rcases hb with rfl | rfl
    · exact hlead _ (by omega) (by omega)
    · exact hcont _
  split at hb
  · simp only [List.mem_cons, List.not_mem_nil, or_false] at hb
    rcases hb with rfl | rfl | rfl
    · exact hlead _ (by omega) (by omega)
    · exact hcont _
    · exact hcont _
  · simp only [List.mem_cons, List.not_mem_nil, or_false] at hb
    rcases hb with rfl | rfl | rfl | rfl
    · exact hlead _ (by omega) (by omega)
    · exact hcont _
    · exact hcont _
    · exact hcont _

theorem count_encodePoint (c : CodePoint) {a : CodePoint} (ha : a.val < 0x80) :
    (encodePoint c).count a.val.toUInt8 = if c = a then 1 else 0 := by
  have hbyte : a.val.toUInt8.toNat = a.val := toNat_toUInt8 (by omega)
  by_cases hc : c.val < 0x80
  · have hiff : c.val.toUInt8 = a.val.toUInt8 ↔ c = a := by
      rw [← UInt8.toNat_inj, hbyte, toNat_toUInt8 (by omega), Fin.ext_iff]
    rw [encodePoint, if_pos hc, List.count_singleton]
    simp only [beq_iff_eq, hiff]
  · have hne : c ≠ a := by
      rintro rfl
      exact hc ha
    rw [if_neg hne, List.count_eq_zero]
    intro hmem
    have hle := le_of_mem_encodePoint (Nat.le_of_not_lt hc) _ hmem
    omega

/-- **An ASCII byte occurs in the bytes of a text as often as its code point in the text.** -/
theorem count_encode (t : Text) {a : CodePoint} (ha : a.val < 0x80) :
    (encode t).count a.val.toUInt8 = t.count a := by
  induction t with
  | nil => rfl
  | cons c t ih =>
    rw [encode_cons, List.count_append, ih, count_encodePoint c ha, List.count_cons, Nat.add_comm]
    simp only [beq_iff_eq]

end CodeSurvey.Utf8
