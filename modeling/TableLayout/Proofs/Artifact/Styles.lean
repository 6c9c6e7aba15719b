import TableLayout.Proofs.Artifact.Determined
import TableLayout.Proofs.Artifact.Joined

/-!
# Both styles of the structure say the same

A line ends with a semicolon or with a flag, so that trimming takes nothing but the spaces that filled it up. Without
its spaces, the line of a member depends neither on the style nor on the widths.
-/

namespace TableLayout

open Text

/-! ## Lines without their spaces -/

theorem trimEnd_append_comment {m : Member} (h : m.comment ≠ "") (s : List Char) :
    trimEnd (s ++ m.comment.toList) = s ++ m.comment.toList := by
  have hcomment := trimEnd_of_trim_eq m.trim_comment
  rw [trimEnd_append, hcomment, if_neg (by simpa using h)]

theorem memberLine_commented {m : Member} (h : m.comment ≠ "") (style : StructStyle) (w : Widths) :
    memberLine style w m =
      indent 1 ++ m.type.text ++ spaces (w.type - m.type.text.length) ++ " " ++ m.name ++ ";" ++
        spaces (w.name - (m.name ++ ";").length) ++ style.commentText m.comment := by
  obtain ⟨mark, hmark⟩ : ∃ mark : String, style.commentText m.comment = mark ++ m.comment := by
    unfold StructStyle.commentText
    rw [if_neg h]
    cases style
    · exact ⟨_, rfl⟩
    · exact ⟨_, rfl⟩
  have hrest : (spaces (w.name - (m.name ++ ";").length) ++ style.commentText m.comment).toList =
      (spaces (w.name - (m.name ++ ";").length) ++ mark).toList ++ m.comment.toList := by
    simp [hmark]
  rw [memberLine_eq, hrest, trimEnd_append_comment h, hmark]
  simp only [String.ofList_append, String.ofList_toList, String.append_assoc]

theorem textLines_append_newline (s t : String) :
    textLines (s ++ "\n" ++ t) = textLines (s ++ "\n") ++ textLines t := by
  unfold textLines
  rw [← List.map_append]
  congr 1
  simpa using lines_append_cons_newline s.toList t.toList

theorem textLines_structureText (c : Compilation) (style : StructStyle) (h : ∀ m ∈ c.members, '\n' ∉ m.name.toList) :
    textLines (c.structureText style) = textLines ("struct " ++ c.table ++ "Entry\n") ++
      "\x7b" :: (c.members.map (memberLine style (style.widths c.members)) ++ ["\x7d;"]) := by
  have htext : c.structureText style = "struct " ++ c.table ++ "Entry" ++ "\n" ++
      unlines ("\x7b" :: (c.members.map (memberLine style (style.widths c.members)) ++ ["\x7d;"])) := by
    unfold Compilation.structureText Compilation.structureLines
    simp [unlines, String.append_assoc]
  have hbody : ∀ l ∈ "\x7b" :: (c.members.map (memberLine style (style.widths c.members)) ++ ["\x7d;"]),
      '\n' ∉ l.toList := by
    intro l hl
    simp only [List.mem_cons, List.mem_append, List.mem_map, List.not_mem_nil, or_false] at hl
    rcases hl with rfl | ⟨m, hm, rfl⟩ | rfl
    · decide
    · exact (isInner_memberLine style _ (h m hm)).one_line
    · decide
  rw [htext, textLines_append_newline, textLines_unlines hbody]
  simp [String.append_assoc]

end TableLayout
