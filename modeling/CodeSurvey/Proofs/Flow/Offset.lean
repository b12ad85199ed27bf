/-
  The branches and loops of a text, by a loop over its lines.

  The loop reads the lines one by one and keeps the offset at which the next one starts.  A `switch`
  looks for its block in the whole text, from the offset behind its keyword.

  * `Flow.switchNodeAt?`: the `switch` of a line, told by the offset of the line;
    `Flow.switchNodeAt?_eq`: it is the one that the text ahead of the line tells;
  * `Flow.Listing`, `Flow.Listing.read`, `Flow.Listing.ofLines`: what the loop has listed and where
    it is, behind one more line, and behind some;
  * `Flow.Listing.read_eq`: what the loop does with a line in its place; `Flow.Listing.ofLines_eq`:
    where it is behind the first lines, and with which entries; `Flow.Listing.ofLines_lines`: so it
    ends behind the text, with the branches and loops of that.
-/
import CodeSurvey.Flow.Branch
import CodeSurvey.Proofs.Text.Cut
import CodeSurvey.Proofs.Text.Line

namespace CodeSurvey.Flow

open Text (IsLine IsWord ended)

variable {t head line ahead word front behind : Text} {before after : List Text} {number : Nat}

/-- A text with a word of one of its lines, up to the word and behind it. -/
theorem eq_append_of_isWord (hline : IsLine t number head line ahead)
    (hword : IsWord word line front behind) :
    t = head ++ front ++ word ++ (behind ++ ahead) := by
  rw [hline.eq, hword.eq]
  simp only [List.append_assoc]

/-! ## The entries of lines -/

/-- The `switch` of a line that starts at the offset: its window goes from behind its keyword up to
    the end of the first block there. -/
def switchNodeAt? (t : Text) (number offset : Nat) (line : Text) : Option ControlFlowNode :=
  (line.afterWord? [.ofString "switch"]).map fun rest =>
    let start := offset + (line.length - rest.length)
    switchNode number (t.part start (blockEnd t start))

/-- The part of a text up to the end of the block behind an offset is the window of what follows. -/
theorem part_blockEnd (start rest : Text) :
    (start ++ rest).part start.length (blockEnd (start ++ rest) start.length) =
      blockWindow rest := by
  rw [blockEnd, List.drop_left, Text.part, List.take_length_add_append, List.drop_left, blockWindow]

/-- **The offset of a line tells the same `switch` as the text ahead of the line.** -/
theorem switchNodeAt?_eq (hline : IsLine t number head line ahead) :
    switchNodeAt? t number head.length line = switchNode? number line ahead := by
  refine Option.map_congr fun rest hrest => ?_
  obtain ⟨front, hword⟩ := Text.afterWord?_eq_some_iff.1 hrest
  have hstart : head.length + (line.length - rest.length) =
      (head ++ front ++ .ofString "switch").length := by
    rw [hword.eq]
    simp only [List.length_append]
    omega
  simp only [hstart, eq_append_of_isWord hline hword.toIsWord, part_blockEnd]

theorem nodesFrom_append (number : Nat) (ls ms : List (Text × Text)) :
    nodesFrom number (ls ++ ms) = nodesFrom number ls ++ nodesFrom (number + ls.length) ms := by
  induction ls generalizing number with
  | nil => rfl
  | cons first ls ih =>
    rw [List.cons_append, nodesFrom, ih, nodesFrom, List.append_assoc, List.length_cons,
      Nat.add_right_comm, Nat.add_assoc]

/-! ## The loop -/

/-- A listing on its way: the number of the line that comes next, the offset at which it starts, and
    the entries so far. -/
structure Listing where
  number : Nat := 1
  offset : Nat := 0
  nodes : List ControlFlowNode := []

namespace Listing

/-- The listing behind one more line of the text. -/
def read (t : Text) (s : Listing) (line : Text) : Listing where
  number := s.number + 1
  offset := s.offset + line.length + 1
  nodes := s.nodes ++ ((ifNode? s.number line).toList ++ (loopNode? s.number line).toList ++
    (switchNodeAt? t s.number s.offset line).toList)

/-- The listing behind some lines of the text. -/
def ofLines (t : Text) (ls : List Text) : Listing :=
  ls.foldl (read t) {}

theorem ofLines_concat (t : Text) (ls : List Text) (line : Text) :
    ofLines t (ls ++ [line]) = (ofLines t ls).read t line :=
  List.foldl_concat (read t) {} line ls

/-- **At the offset of a line the loop lists the entries of the line**, and goes on to the next
    one. -/
theorem read_eq (hline : IsLine t number head line ahead) (nodes : List ControlFlowNode) :
    read t ⟨number, head.length, nodes⟩ line =
      ⟨number + 1, head.length + line.length + 1, nodes ++ lineNodes number line ahead⟩ := by
  rw [read, switchNodeAt?_eq hline, lineNodes]

/-- **Behind the first lines of a text the loop stands where the next line starts, and has listed
    the entries of those before.**  By induction on the lines that are read. -/
theorem ofLines_eq (h : t.lines = before ++ after) :
    ofLines t before = ⟨before.length + 1, (ended before).length,
      nodesFrom 1 (t.linesAhead.take before.length)⟩ := by
  induction before using List.reverseRecOn generalizing after with
  | nil => rfl
  | append_singleton before line ih =>
    rw [List.append_assoc, List.singleton_append] at h
    obtain ⟨ahead, hline⟩ := Text.exists_isLine_of_lines h
    have hahead : t.linesAhead[before.length]? = some (line, ahead) :=
      Text.getElem?_linesAhead_iff.2 ⟨_, hline⟩
    have hnodes : nodesFrom 1 (t.linesAhead.take (before.length + 1)) =
        nodesFrom 1 (t.linesAhead.take before.length) ++
          lineNodes (before.length + 1) line ahead := by
      have hlength := (List.getElem?_eq_some_iff.1 hahead).1
      rw [List.take_add_one, hahead, nodesFrom_append, List.length_take_of_le hlength.le,
        Nat.add_comm 1, Option.toList_some, nodesFrom, nodesFrom, List.append_nil]
    rw [ofLines_concat, ih h, read_eq hline, Text.length_ended_concat, List.length_append,
      List.length_singleton, hnodes]

/-- **The loop with the offset lists the branches and loops of the text**, and ends behind its last
    line. -/
theorem ofLines_lines (t : Text) :
    ofLines t t.lines = ⟨t.lines.length + 1, t.length + 1, controlFlow t⟩ := by
  have hlength : t.linesAhead.length = t.lines.length := by
    rw [← Text.map_fst_linesAhead, List.length_map]
  rw [ofLines_eq (List.append_nil _).symm, ← Text.unlines_append_newline (Text.lines_ne_nil t),
    Text.unlines_lines, List.length_append, List.length_singleton,
    List.take_of_length_le hlength.le, controlFlow]

end Listing

end CodeSurvey.Flow
