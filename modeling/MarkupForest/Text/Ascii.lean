namespace MarkupForest.Text

def isGap (c : Char) : Bool :=
  c == ' ' || c == '\t' || c == '\n' || c == '\x0c' || c == '\r'

def lowerAscii (s : String) : List Char := s.toList.map Char.toLower

def sameLetters (s t : String) : Bool := lowerAscii s == lowerAscii t

theorem sameLetters_iff {s t : String} : sameLetters s t = true ↔ lowerAscii s = lowerAscii t := by
  simp [sameLetters]

theorem sameLetters_refl (s : String) : sameLetters s s = true := by
  simp [sameLetters]

theorem sameLetters_symm {s t : String} (h : sameLetters s t = true) : sameLetters t s = true := by
  rw [sameLetters_iff] at h ⊢
  exact h.symm

theorem sameLetters_trans {s t u : String} (hst : sameLetters s t = true)
    (htu : sameLetters t u = true) : sameLetters s u = true := by
  rw [sameLetters_iff] at hst htu ⊢
  exact hst.trans htu

def opensWith : List Char → List Char → Bool
  | [], _ => true
  | _ :: _, [] => false
  | m :: mark, c :: s => m.toLower == c.toLower && opensWith mark s

end MarkupForest.Text
