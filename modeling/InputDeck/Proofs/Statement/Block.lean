import InputDeck.Proofs.Statement.Assignment
import InputDeck.Proofs.Text.Column
import InputDeck.Statement.Block

/-!
# The grammar of block openings

A line opens a block exactly if it is made of blanks, a percent sign, a name and blanks. Such a line
assigns nothing.
-/

namespace InputDeck.Statement

open InputDeck.Text

theorem isBlank_percent : isBlank '%' = false := by decide

theorem indexOf?_percent {lead : List Char} (hlead : AllBlank lead) (rest : List Char) :
    indexOf? ['%'] (lead ++ '%' :: rest) = some lead.length := by
  have hhere : indexOf? ['%'] ('%' :: rest) = some 0 :=
    indexOf?_of_prefix (List.prefix_append _ rest)
  rw [indexOf?_append (hlead.not_mem isBlank_percent), hhere]
  rfl

theorem endsName_of_allBlank {fill : List Char} (hfill : AllBlank fill) : EndsName fill :=
  fun c hc => isNameChar_eq_false_of_isBlank (hfill c (List.mem_of_mem_head? hc))

theorem blockOpening?_eq_some_iff {line : String} {b : BlockOpening} :
    blockOpening? line = some b ↔
      ∃ lead name fill, AllBlank lead ∧ isName name = true ∧ AllBlank fill ∧
        line.toList = lead ++ '%' :: (name ++ fill) ∧ b = ⟨String.ofList name, lead.length⟩ := by
  constructor
  · intro h
    unfold blockOpening? at h
    split at h
    · next cs hstart =>
      split at h
      · next name fill htake =>
        obtain ⟨hname, rfl, _⟩ := takeName?_eq_some_iff.1 htake
        split at h
        · next hfill =>
          have hline : line.toList = line.toList.takeWhile isBlank ++ '%' :: (name ++ fill) := by
            rw [← hstart, takeWhile_append_trimStart]
          refine ⟨line.toList.takeWhile isBlank, name, fill, allBlank_takeWhile _, hname,
            List.all_eq_true.1 hfill, hline, ?_⟩
          rw [hline, indexOf?_percent (allBlank_takeWhile _)] at h
          exact (Option.some.inj h).symm
        · cases h
      · cases h
    · cases h
  · rintro ⟨lead, name, fill, hlead, hname, hfill, hline, rfl⟩
    have hstart : trimStart line.toList = '%' :: (name ++ fill) := by
      rw [hline, trimStart_append hlead, trimStart_cons isBlank_percent]
    have htake : takeName? (name ++ fill) = some (name, fill) :=
      takeName?_eq_some_iff.2 ⟨hname, rfl, endsName_of_allBlank hfill⟩
    have hindex : indexOf? ['%'] line.toList = some lead.length := by
      rw [hline, indexOf?_percent hlead]
    rw [blockOpening?, hstart]
    simp only [htake, if_pos (List.all_eq_true.2 hfill), hindex, Option.getD_some]

/-- No line both opens a block and assigns a value. -/
theorem assignment?_of_blockOpening? {line : String} {b : BlockOpening}
    (h : blockOpening? line = some b) : assignment? line = none := by
  obtain ⟨lead, name, fill, hlead, _, _, hline, _⟩ := blockOpening?_eq_some_iff.1 h
  have hsplit : splitAssignment? line.toList = none := by
    rw [splitAssignment?, hline, trimStart_append hlead, trimStart_cons isBlank_percent]
    rfl
  rw [assignment?, assigned?, hsplit]
  rfl

end InputDeck.Statement
