import MarkupForest.Reference

namespace MarkupForest.Text

variable {s t : List Char} {c d : Char}

theorem bne_of_not_mem (h : d ∉ s) : ∀ x ∈ s, (x != d) = true := by
  intro x hx
  rw [bne_iff_ne]
  rintro rfl
  exact h hx

theorem takeWhile_append_cons {p : Char → Bool} (hs : ∀ x ∈ s, p x = true) (hc : p c = false) :
    (s ++ c :: t).takeWhile p = s := by
  rw [List.takeWhile_append_of_pos hs, List.takeWhile_cons_of_neg (by simp [hc]), List.append_nil]

theorem dropWhile_append_cons {p : Char → Bool} (hs : ∀ x ∈ s, p x = true) (hc : p c = false) :
    (s ++ c :: t).dropWhile p = c :: t := by
  rw [List.dropWhile_append_of_pos hs, List.dropWhile_cons_of_neg (by simp [hc])]

end MarkupForest.Text

namespace MarkupForest.Reference

open Text

variable {spot : Spot} {dialect : Dialect} {body s t : List Char} {c : Char}

theorem read?_append (hb : ';' ∉ body) (hw : width body < reach) (hv : value? body = some c) :
    read? (body ++ ';' :: t) = some (c, t) := by
  have hall := bne_of_not_mem hb
  unfold read?
  rw [takeWhile_append_cons hall rfl, dropWhile_append_cons hall rfl]
  have hnot : ¬ reach < width body + 1 := Nat.not_lt.mpr hw
  simp only [if_neg hnot, hv]
  rfl

def bodies : List (List Char) := [
  ['a', 'm', 'p'], ['n', 'b', 's', 'p'], ['#', 'x', 'a', '0'], ['l', 't'], ['g', 't'],
  ['q', 'u', 'o', 't']]

theorem mem_bodies {d : Char} (hd : d = ';' ∨ d = '<' ∨ d = '\x22') :
    ∀ body ∈ bodies, d ∉ body := by
  rcases hd with rfl | rfl | rfl <;> decide

theorem width_bodies : ∀ body ∈ bodies, width body < reach := by decide

theorem spell_cases (spot : Spot) (dialect : Dialect) (c : Char) :
    (spell spot dialect c = [c] ∧ c ≠ '&' ∧ (spot = .content → c ≠ '<') ∧
      (spot = .quoted → c ≠ '\x22')) ∨
    ∃ body ∈ bodies, spell spot dialect c = '&' :: (body ++ [';']) ∧ value? body = some c := by
  unfold spell
  split
  · next h => exact .inr ⟨['a', 'm', 'p'], by decide, rfl, h ▸ rfl⟩
  · next hamp =>
    split
    · next h =>
      cases dialect with
      | html => exact .inr ⟨['n', 'b', 's', 'p'], by decide, rfl, h ▸ rfl⟩
      | xml => exact .inr ⟨['#', 'x', 'a', '0'], by decide, rfl, h ▸ rfl⟩
    · split
      · next h => exact .inr ⟨['l', 't'], by decide, rfl, h.1 ▸ rfl⟩
      · next hlt =>
        split
        · next h => exact .inr ⟨['g', 't'], by decide, rfl, h.1 ▸ rfl⟩
        · split
          · next h => exact .inr ⟨['q', 'u', 'o', 't'], by decide, rfl, h.1 ▸ rfl⟩
          · next hquot =>
            exact .inl ⟨rfl, hamp, fun hs hc => hlt ⟨hc, .inl hs⟩, fun hs hc => hquot ⟨hc, hs⟩⟩

theorem lt_not_mem_encode : '<' ∉ encode .content dialect s := by
  simp only [encode, List.mem_flatMap, not_exists, not_and]
  intro c _ hm
  rcases spell_cases .content dialect c with ⟨hs, _, hlt, _⟩ | ⟨body, hb, hs, _⟩
  · rw [hs, List.mem_singleton] at hm
    exact hlt rfl hm.symm
  · have hnot := mem_bodies (.inr (.inl rfl)) body hb
    rw [hs] at hm
    simp [hnot] at hm

theorem quote_not_mem_encode : '\x22' ∉ encode .quoted dialect s := by
  simp only [encode, List.mem_flatMap, not_exists, not_and]
  intro c _ hm
  rcases spell_cases .quoted dialect c with ⟨hs, _, _, hq⟩ | ⟨body, hb, hs, _⟩
  · rw [hs, List.mem_singleton] at hm
    exact hq rfl hm.symm
  · have hnot := mem_bodies (.inr (.inr rfl)) body hb
    rw [hs] at hm
    simp [hnot] at hm

theorem encode_ne_nil (hs : s ≠ []) : encode spot dialect s ≠ [] := by
  obtain ⟨c, s, rfl⟩ := List.exists_cons_of_ne_nil hs
  rw [encode, List.flatMap_cons]
  rcases spell_cases spot dialect c with ⟨hc, _⟩ | ⟨body, _, hc, _⟩
  · simp [hc]
  · simp [hc]

theorem toList_escape (spot : Spot) (dialect : Dialect) (s : String) :
    (escape spot dialect s).toList = encode spot dialect s.toList :=
  String.toList_ofList

end MarkupForest.Reference
