/-!
# Splitting Texts

A text is split at the first occurrence of a mark; the mark belongs to neither part.
-/

namespace DiceOdds.Text

/-- The parts of a text before and behind the first occurrence of a mark, if it occurs. -/
def splitFirst? (mark : Char) (s : String) : Option (String × String) :=
  match s.toList.dropWhile (· != mark) with
  | [] => none
  | _ :: behind => some (String.ofList (s.toList.takeWhile (· != mark)), String.ofList behind)

/-- Where dropping stops, the mark stands. -/
theorem head_dropWhile_ne {mark c : Char} {cs behind : List Char}
    (h : cs.dropWhile (· != mark) = c :: behind) : c = mark := by
  have := List.head?_dropWhile_not (· != mark) cs
  rw [h] at this
  simpa using this

/-- The parts and the mark between them make up the text. -/
theorem toList_of_splitFirst? {mark : Char} {s : String} {parts : String × String}
    (h : splitFirst? mark s = some parts) :
    s.toList = parts.1.toList ++ mark :: parts.2.toList := by
  unfold splitFirst? at h
  split at h
  · cases h
  · next c behind hdrop =>
    cases h
    have hall := List.takeWhile_append_dropWhile (p := (· != mark)) (l := s.toList)
    rw [hdrop, head_dropWhile_ne hdrop] at hall
    simpa using hall.symm

end DiceOdds.Text
