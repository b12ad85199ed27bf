/-
  Where the lines of a text lie.

  * `Text.lineAt`, `Text.part`: the number of the line of an offset, and the text between two
    offsets; `Text.part_append_part`: a part cut in two;
  * `Text.linesAhead_newline`, `Text.linesAhead_cons_of_ne`: the lines of a text, code point by
    code point; `Text.map_fst_linesAhead`: they are those of `Text.lines`;
  * `Text.IsLine`: a line between what precedes and what follows it; `Text.IsLine.unique`: the
    number tells the line;
  * `Text.getElem?_linesAhead_iff`: the lines of a text are all of them, in order;
  * `Text.lines_append_newline`, `Text.unlines_lines`, `Text.lines_unlines`: the lines of joined
    texts, the text of the lines of one, and the lines of the text of some;
  * `Text.ended`, `Text.IsLine.exists_lines`, `Text.exists_isLine_of_lines`: a line in its place, by
    the lines before it;
  * `Text.exists_lines_append`, `Text.exists_getElem?_lines_append`: the lines of a text that goes on;
    `Text.infix_of_mem_lines`, `Text.exists_line_of_infix`: lines as pieces of the text, and pieces
    within a line; `Text.suffix_last_line`: the end of a text, within its last line.
-/
import CodeSurvey.Text.Line
import Mathlib.Data.List.TakeWhile

namespace CodeSurvey.Text

variable {t u head head' line line' ahead ahead' : Text} {c : CodePoint} {number : Nat}
  {ls before after : List Text}

/-- The number of the line on which an offset lies, from 1. -/
def lineAt (t : Text) (offset : Nat) : Nat :=
  newlines (t.take offset) + 1

/-- The text from one offset up to another. -/
def part (t : Text) (start stop : Nat) : Text :=
  (t.take stop).drop start

theorem lineAt_mono {i j : Nat} (h : i ≤ j) (t : Text) : t.lineAt i ≤ t.lineAt j :=
  Nat.succ_le_succ ((List.take_sublist_take_left h).count_le _)

theorem length_part {start stop : Nat} (h : stop ≤ t.length) :
    (t.part start stop).length = stop - start := by
  rw [part, List.length_drop, List.length_take_of_le h]

theorem part_append_drop {start stop : Nat} (h : start ≤ stop) (t : Text) :
    t.part start stop ++ t.drop stop = t.drop start := by
  have hdrop : t.drop stop = (t.drop start).drop (stop - start) := by
    rw [List.drop_drop, Nat.add_sub_cancel' h]
  rw [part, List.drop_take, hdrop, List.take_append_drop]

theorem part_append_part {start middle stop : Nat} (hstart : start ≤ middle)
    (hstop : middle ≤ stop) (t : Text) :
    t.part start middle ++ t.part middle stop = t.part start stop := by
  have hmiddle : t.part start middle = part (t.take stop) start middle := by
    rw [part, part, List.take_take, Nat.min_eq_left hstop]
  rw [hmiddle]
  exact part_append_drop hstart (t.take stop)

theorem newlines_append (t u : Text) : newlines (t ++ u) = newlines t + newlines u :=
  List.count_append

theorem newlines_eq_zero_iff : newlines t = 0 ↔ CodePoint.newline ∉ t :=
  List.count_eq_zero

/-! ## Lines one after the other -/

theorem linesAhead_newline (t : Text) :
    linesAhead (.newline :: t) = ([], .newline :: t) :: linesAhead t := by
  rw [linesAhead, if_pos rfl]

theorem linesAhead_ne_nil (t : Text) : linesAhead t ≠ [] := by
  cases t with
  | nil => exact List.cons_ne_nil _ _
  | cons c cs =>
    rw [linesAhead]
    split
    · exact List.cons_ne_nil _ _
    · split
      · exact List.cons_ne_nil _ _
      · exact List.cons_ne_nil _ _

/-- Another code point comes to the first line. -/
theorem linesAhead_cons_of_ne (hc : c ≠ .newline) (t : Text) :
    ∃ l ahead ls, linesAhead t = (l, ahead) :: ls ∧
      linesAhead (c :: t) = (c :: l, ahead) :: ls := by
  cases ht : linesAhead t with
  | nil => exact absurd ht (linesAhead_ne_nil t)
  | cons first ls => exact ⟨first.1, first.2, ls, rfl, by rw [linesAhead, if_neg hc, ht]⟩

theorem map_fst_linesAhead (t : Text) : (linesAhead t).map Prod.fst = lines t := by
  induction t with
  | nil => rfl
  | cons c t ih =>
    by_cases hc : c = .newline
    · rw [hc, linesAhead_newline, List.map_cons, ih, lines, if_pos rfl]
    · obtain ⟨l, ahead, ls, ht, hct⟩ := linesAhead_cons_of_ne hc t
      rw [ht, List.map_cons] at ih
      rw [hct, lines, if_neg hc, ← ih]
      rfl

/-! ## A line in its place -/

/-- A line of the text, of the given number, between what precedes and what follows it. -/
structure IsLine (t : Text) (number : Nat) (head line ahead : Text) : Prop where
  eq : t = head ++ line ++ ahead
  count : number = newlines head + 1
  starts : ∀ c ∈ head.getLast?, c = .newline
  unbroken : CodePoint.newline ∉ line
  ends : ∀ c ∈ ahead.head?, c = .newline

/-- A line is a line of the text that holds it, so its number is that of one. -/
theorem IsLine.le (h : IsLine t number head line ahead) : 1 ≤ number ∧ number ≤ t.lines.length := by
  rw [length_lines, h.count, h.eq, newlines_append, newlines_append]
  omega

/-- Of two texts that go on alike, the shorter one up to line ends reaches as far as the other. -/
theorem head_eq_of_newlines (hcount : newlines head' = newlines head)
    (hstarts : ∀ c ∈ head'.getLast?, c = .newline) (hbefore : head <+: head') : head' = head := by
  obtain ⟨more, rfl⟩ := hbefore
  rw [newlines_append, Nat.add_eq_left, newlines_eq_zero_iff] at hcount
  cases hlast : more.getLast? with
  | none => rw [List.getLast?_eq_none_iff.1 hlast, List.append_nil]
  | some c =>
    have hc := hstarts c (by rw [List.getLast?_append, hlast, Option.some_or]; rfl)
    exact absurd (hc ▸ List.mem_of_getLast? hlast) hcount

theorem takeWhile_eq_line (hline : CodePoint.newline ∉ line)
    (hends : ∀ c ∈ ahead.head?, c = .newline) :
    (line ++ ahead).takeWhile (· != .newline) = line := by
  have hall : ∀ c ∈ line, (c != .newline) = true := fun c hc =>
    bne_iff_ne.2 fun h => hline (h ▸ hc)
  rw [List.takeWhile_append_of_pos hall]
  cases ahead with
  | nil => exact List.append_nil line
  | cons c cs =>
    rw [hends c rfl, List.takeWhile_cons_of_neg (by simp), List.append_nil]

/-- **The number of a line tells the line.** -/
theorem IsLine.unique (h : IsLine t number head line ahead)
    (h' : IsLine t number head' line' ahead') : line = line' ∧ ahead = ahead' := by
  have hcount : newlines head = newlines head' := Nat.succ.inj (h.count.symm.trans h'.count)
  have hhead : head = head' := by
    have hbefore : head <+: t := ⟨line ++ ahead, by rw [h.eq, List.append_assoc]⟩
    have hbefore' : head' <+: t := ⟨line' ++ ahead', by rw [h'.eq, List.append_assoc]⟩
    rcases List.prefix_or_prefix_of_prefix hbefore hbefore' with hle | hle
    · exact (head_eq_of_newlines hcount.symm h'.starts hle).symm
    · exact head_eq_of_newlines hcount h.starts hle
  have hrest : line ++ ahead = line' ++ ahead' := by
    have heq := h.eq.symm.trans h'.eq
    rw [hhead, List.append_assoc, List.append_assoc] at heq
    exact List.append_cancel_left heq
  have hline : line = line' := by
    rw [← takeWhile_eq_line h.unbroken h.ends, hrest, takeWhile_eq_line h'.unbroken h'.ends]
  refine ⟨hline, ?_⟩
  rw [hline] at hrest
  exact List.append_cancel_left hrest

theorem exists_isLine {i : Nat} (h : t.linesAhead[i]? = some (line, ahead)) :
    ∃ head, IsLine t (i + 1) head line ahead := by
  induction t generalizing i line ahead with
  | nil =>
    cases i with
    | zero =>
      cases h
      exact ⟨[], rfl, rfl, nofun, List.not_mem_nil, nofun⟩
    | succ i => cases h
  | cons c t ih =>
    by_cases hc : c = .newline
    · subst hc
      rw [linesAhead_newline] at h
      cases i with
      | zero =>
        cases h
        refine ⟨[], rfl, rfl, nofun, List.not_mem_nil, ?_⟩
        rintro c ⟨⟩
        rfl
      | succ i =>
        obtain ⟨head, hline⟩ := ih h
        refine ⟨.newline :: head, ?_, ?_, ?_, hline.unbroken, hline.ends⟩
        · rw [hline.eq]
          rfl
        · rw [hline.count, newlines, newlines, List.count_cons_self]
        · cases head with
          | nil =>
            rintro c ⟨⟩
            rfl
          | cons d ds => exact hline.starts
    · obtain ⟨l, first, ls, ht, hct⟩ := linesAhead_cons_of_ne hc t
      rw [hct] at h
      rw [ht] at ih
      cases i with
      | zero =>
        cases h
        obtain ⟨head, hline⟩ := ih (i := 0) rfl
        -- the first line has nothing before it
        obtain rfl : head = [] := by
          have hzero : newlines head = 0 := (Nat.succ.inj hline.count).symm
          cases hlast : head.getLast? with
          | none => exact List.getLast?_eq_none_iff.1 hlast
          | some d =>
            have hd := hline.starts d hlast
            exact absurd (hd ▸ List.mem_of_getLast? hlast) (newlines_eq_zero_iff.1 hzero)
        refine ⟨[], ?_, rfl, nofun, ?_, hline.ends⟩
        · rw [hline.eq]
          rfl
        · exact fun hmem => (List.mem_cons.1 hmem).elim (fun h => hc h.symm) hline.unbroken
      | succ i =>
        obtain ⟨head, hline⟩ := ih (i := i + 1) h
        refine ⟨c :: head, ?_, ?_, ?_, hline.unbroken, hline.ends⟩
        · rw [hline.eq]
          rfl
        · rw [hline.count, newlines, newlines, List.count_cons_of_ne hc]
        · cases head with
          | nil => cases hline.count
          | cons d ds => exact hline.starts

/-- **The lines of a text, each with what follows it.** -/
theorem getElem?_linesAhead_iff {i : Nat} :
    t.linesAhead[i]? = some (line, ahead) ↔ ∃ head, IsLine t (i + 1) head line ahead := by
  constructor
  · exact exists_isLine
  · rintro ⟨head, hline⟩
    have hlength : i < t.linesAhead.length := by
      have hle := hline.le.2
      rw [← map_fst_linesAhead, List.length_map] at hle
      exact hle
    obtain ⟨head', hline'⟩ := exists_isLine (List.getElem?_eq_getElem hlength)
    obtain ⟨rfl, rfl⟩ := hline.unique hline'
    exact List.getElem?_eq_getElem hlength

/-! ## Texts and their lines -/

theorem lines_newline (t : Text) : lines (.newline :: t) = [] :: lines t := by
  rw [lines, if_pos rfl]

/-- Another code point comes to the first line. -/
theorem lines_cons_of_ne (hc : c ≠ .newline) (t : Text) :
    ∃ l ls, lines t = l :: ls ∧ lines (c :: t) = (c :: l) :: ls := by
  cases ht : lines t with
  | nil => exact absurd ht (lines_ne_nil t)
  | cons l ls => exact ⟨l, ls, rfl, by rw [lines, if_neg hc, ht]⟩

/-- The lines of two texts with a line feed between them. -/
theorem lines_append_newline (t u : Text) : lines (t ++ .newline :: u) = lines t ++ lines u := by
  induction t with
  | nil => exact lines_newline u
  | cons c t ih =>
    rw [List.cons_append]
    by_cases hc : c = .newline
    · rw [hc, lines_newline, lines_newline, ih, List.cons_append]
    · obtain ⟨l, ls, ht, hct⟩ := lines_cons_of_ne hc t
      obtain ⟨l', ls', htu, hctu⟩ := lines_cons_of_ne hc (t ++ .newline :: u)
      rw [ht, htu, List.cons_append] at ih
      obtain ⟨rfl, rfl⟩ := List.cons.inj ih
      rw [hctu, hct, List.cons_append]

theorem lines_of_notMem (h : CodePoint.newline ∉ t) : lines t = [t] := by
  induction t with
  | nil => rfl
  | cons c t ih =>
    rw [List.mem_cons, not_or] at h
    rw [lines, if_neg (Ne.symm h.1), ih h.2]

/-- The last line of a text goes on with the first one of a text behind it. -/
theorem exists_lines_append (t u : Text) : ∃ ls line line' ls',
    lines t = ls ++ [line] ∧ lines u = line' :: ls' ∧
      lines (t ++ u) = ls ++ (line ++ line') :: ls' := by
  induction t with
  | nil =>
    obtain ⟨line', ls', hu⟩ := List.exists_cons_of_ne_nil (lines_ne_nil u)
    exact ⟨[], [], line', ls', rfl, hu, hu⟩
  | cons c t ih =>
    obtain ⟨ls, line, line', ls', ht, hu, htu⟩ := ih
    by_cases hc : c = .newline
    · subst hc
      refine ⟨[] :: ls, line, line', ls', ?_, hu, ?_⟩
      · rw [lines_newline, ht, List.cons_append]
      · rw [List.cons_append, lines_newline, htu, List.cons_append]
    · obtain ⟨first, rest, ht', hct⟩ := lines_cons_of_ne hc t
      obtain ⟨first', rest', htu', hctu⟩ := lines_cons_of_ne hc (t ++ u)
      rw [List.cons_append, hct, hctu]
      rw [ht'] at ht
      rw [htu'] at htu
      cases ls with
      | nil =>
        obtain ⟨hline, hrest⟩ := List.cons.inj ht
        obtain ⟨hline', hrest'⟩ := List.cons.inj htu
        exact ⟨[], c :: line, line', ls', by rw [hline, hrest]; rfl, hu, by rw [hline', hrest']; rfl⟩
      | cons l ls =>
        obtain ⟨hline, hrest⟩ := List.cons.inj ht
        obtain ⟨hline', hrest'⟩ := List.cons.inj htu
        exact ⟨(c :: l) :: ls, line, line', ls', by rw [hline, hrest]; rfl, hu,
          by rw [hline', hrest']; rfl⟩

/-- A line of a text is a line of the text that goes on, but for the last one, which goes on too. -/
theorem exists_getElem?_lines_append {i : Nat} (h : t.lines[i]? = some line) (u : Text) :
    ∃ more, (lines (t ++ u))[i]? = some (line ++ more) ∧ (i + 1 < t.lines.length → more = []) := by
  obtain ⟨ls, last, line', ls', ht, -, htu⟩ := exists_lines_append t u
  rw [ht] at h ⊢
  rw [htu]
  rcases Nat.lt_trichotomy i ls.length with hlt | rfl | hgt
  · rw [List.getElem?_append_left hlt] at h ⊢
    exact ⟨[], by rw [List.append_nil, h], fun _ => rfl⟩
  · rw [List.getElem?_concat_length, Option.some.injEq] at h
    subst h
    exact ⟨line', by simp, fun hlast => by simp at hlast⟩
  · rw [List.getElem?_eq_none (by simpa using Nat.succ_le_of_lt hgt)] at h
    cases h

theorem unlines_cons (line : Text) (h : ls ≠ []) :
    unlines (line :: ls) = line ++ .newline :: unlines ls := by
  obtain ⟨next, ls, rfl⟩ := List.exists_cons_of_ne_nil h
  rw [unlines, join, List.append_assoc]
  rfl

theorem unlines_append (hbefore : before ≠ []) (hafter : after ≠ []) :
    unlines (before ++ after) = unlines before ++ .newline :: unlines after := by
  induction before with
  | nil => exact absurd rfl hbefore
  | cons line ls ih =>
    by_cases hls : ls = []
    · rw [hls]
      exact unlines_cons line hafter
    · rw [List.cons_append, unlines_cons line (List.append_ne_nil_of_left_ne_nil hls after), ih hls,
        unlines_cons line hls, List.append_assoc, List.cons_append]

/-- A text has the text of its lines. -/
theorem unlines_lines (t : Text) : unlines (lines t) = t := by
  induction t with
  | nil => rfl
  | cons c t ih =>
    by_cases hc : c = .newline
    · rw [hc, lines_newline, unlines_cons [] (lines_ne_nil t), ih, List.nil_append]
    · obtain ⟨l, ls, ht, hct⟩ := lines_cons_of_ne hc t
      rw [ht] at ih
      rw [hct, ← ih]
      by_cases hls : ls = []
      · rw [hls]
        rfl
      · rw [unlines_cons _ hls, unlines_cons _ hls, List.cons_append]

/-- Lines without line feeds, at least one, are the lines of their text. -/
theorem lines_unlines (hne : ls ≠ []) (h : ∀ line ∈ ls, CodePoint.newline ∉ line) :
    lines (unlines ls) = ls := by
  induction ls with
  | nil => exact absurd rfl hne
  | cons line ls ih =>
    obtain ⟨hline, hrest⟩ := List.forall_mem_cons.1 h
    by_cases hls : ls = []
    · rw [hls]
      exact lines_of_notMem hline
    · rw [unlines_cons line hls, lines_append_newline, lines_of_notMem hline, ih hls hrest,
        List.singleton_append]

/-! ## A line among the others -/

/-- The text of some lines, a line feed at the end of each. -/
def ended (ls : List Text) : Text :=
  ls.flatMap fun line => line ++ [.newline]

theorem ended_append (before after : List Text) :
    ended (before ++ after) = ended before ++ ended after :=
  List.flatMap_append

theorem ended_cons (line : Text) (ls : List Text) :
    ended (line :: ls) = line ++ .newline :: ended ls := by
  rw [ended, List.flatMap_cons, List.append_assoc]
  rfl

theorem length_ended_concat (ls : List Text) (line : Text) :
    (ended (ls ++ [line])).length = (ended ls).length + line.length + 1 := by
  rw [ended_append, ended_cons, List.length_append, List.length_append, List.length_cons,
    ← Nat.add_assoc]
  rfl

theorem unlines_append_newline (h : ls ≠ []) : unlines ls ++ [.newline] = ended ls := by
  induction ls with
  | nil => exact absurd rfl h
  | cons line ls ih =>
    by_cases hls : ls = []
    · rw [hls]
      exact (ended_cons line []).symm
    · rw [unlines_cons line hls, List.append_assoc, List.cons_append, ih hls, ended_cons]

/-- A line in its place has before it the lines of the text that come before it. -/
theorem IsLine.exists_lines (h : IsLine t number head line ahead) :
    ∃ before after, t.lines = before ++ line :: after ∧ head = ended before ∧
      number = before.length + 1 := by
  obtain ⟨after, hrest⟩ : ∃ after, lines (line ++ ahead) = line :: after := by
    cases ahead with
    | nil => exact ⟨[], by rw [List.append_nil, lines_of_notMem h.unbroken]⟩
    | cons c cs =>
      rw [h.ends c rfl, lines_append_newline, lines_of_notMem h.unbroken]
      exact ⟨lines cs, rfl⟩
  have ht := h.eq
  have hcount := h.count
  rcases List.eq_nil_or_concat head with rfl | ⟨start, c, rfl⟩
  · exact ⟨[], after, by rw [ht]; exact hrest, rfl, hcount⟩
  · obtain rfl : c = .newline := h.starts c (by simp)
    refine ⟨lines start, after, ?_, ?_, ?_⟩
    · rw [ht, List.append_assoc, List.concat_eq_append, List.append_assoc, List.singleton_append,
        lines_append_newline, hrest]
    · rw [← unlines_append_newline (lines_ne_nil start), unlines_lines, List.concat_eq_append]
    · rw [hcount, length_lines, List.concat_eq_append, newlines_append]
      rfl

/-- Every line among the lines of a text has its place in the text. -/
theorem exists_isLine_of_lines (h : t.lines = before ++ line :: after) :
    ∃ ahead, IsLine t (before.length + 1) (ended before) line ahead := by
  obtain ⟨ahead, hahead⟩ : ∃ ahead, t.linesAhead[before.length]? = some (line, ahead) := by
    have hline : (t.linesAhead.map Prod.fst)[before.length]? = some line := by
      rw [map_fst_linesAhead, h, List.getElem?_append_right (Nat.le_refl _), Nat.sub_self]
      rfl
    rw [List.getElem?_map, Option.map_eq_some_iff] at hline
    obtain ⟨⟨_, ahead⟩, hget, rfl⟩ := hline
    exact ⟨ahead, hget⟩
  obtain ⟨head, hplace⟩ := exists_isLine hahead
  obtain ⟨before', after', hlines, rfl, hnumber⟩ := hplace.exists_lines
  obtain ⟨rfl, -⟩ := List.append_inj (h.symm.trans hlines) (Nat.succ.inj hnumber)
  exact ⟨ahead, hplace⟩

/-- A line is a piece of its text. -/
theorem infix_of_mem_lines (h : line ∈ t.lines) : line <:+: t := by
  obtain ⟨before, after, hlines⟩ := List.append_of_mem h
  obtain ⟨ahead, hplace⟩ := exists_isLine_of_lines hlines
  exact ⟨ended before, ahead, hplace.eq.symm⟩

/-- A piece without line feeds lies within a line. -/
theorem exists_line_of_infix {piece : Text} (hpiece : CodePoint.newline ∉ piece)
    (h : piece <:+: t) : ∃ line ∈ t.lines, piece <:+: line := by
  obtain ⟨before, after, rfl⟩ := h
  obtain ⟨ls, line, line', ls', hbefore, hp, hboth⟩ := exists_lines_append before piece
  rw [lines_of_notMem hpiece] at hp
  obtain ⟨rfl, rfl⟩ := List.cons.inj hp
  obtain ⟨ms, last, line'', ms', hlast, -, hall⟩ := exists_lines_append (before ++ piece) after
  obtain ⟨-, hends⟩ := List.append_inj' (hboth.symm.trans hlast) rfl
  obtain rfl := List.cons.inj hends |>.1
  refine ⟨line ++ piece ++ line'', ?_, ⟨line, line'', rfl⟩⟩
  rw [hall]
  simp

/-- An end of the text without line feed is the end of its last line. -/
theorem suffix_last_line (hsuffix : u <:+ t) (hu : CodePoint.newline ∉ u)
    (hline : line ∈ t.lines.getLast?) : u <:+ line := by
  obtain ⟨before, rfl⟩ := hsuffix
  obtain ⟨ls, first, last, ls', -, hlast, hall⟩ := exists_lines_append before u
  rw [lines_of_notMem hu] at hlast
  obtain ⟨rfl, rfl⟩ := List.cons.inj hlast
  rw [hall, List.getLast?_concat, Option.mem_some] at hline
  exact ⟨first, hline⟩

end CodeSurvey.Text
