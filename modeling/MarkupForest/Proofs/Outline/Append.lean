import MarkupForest.Proofs.Outline.Basic

namespace MarkupForest

namespace Outline

variable {look more : Nat → Option (Label × List Nat)} {o : Outline} {label : Label}
  {k d p x : Nat} {ids : List Nat}

def hang (label : Label) : Outline → Nat → Outline
  | nil, _ => node label nil nil
  | node l below after, 0 => node l below (after.hang label 0)
  | node l below nil, d + 1 => node l (below.hang label d) nil
  | node l below (node l' below' after'), d + 1 =>
    node l below ((node l' below' after').hang label (d + 1))

def spine : Outline → Nat → List Nat
  | nil, _ => []
  | node _ below nil, k => k :: below.spine (k + 1)
  | node _ below (node l' below' after'), k => (node l' below' after').spine (k + 1 + below.size)

def Numbered (look : Nat → Option (Label × List Nat)) : Outline → Nat → List Nat → Prop
  | nil, _, ids => ids = []
  | node label below after, k, ids => ∃ kids rest, ids = k :: rest ∧
      look k = some (label, kids) ∧ below.Numbered look (k + 1) kids ∧
      after.Numbered look (k + 1 + below.size) rest

theorem size_node (l : Label) (below after : Outline) :
    (node l below after).size = below.size + after.size + 1 :=
  rfl

theorem hang_ne_nil : o.hang label d ≠ nil := by
  unfold hang
  split <;> simp

theorem size_hang (label : Label) (o : Outline) (d : Nat) :
    (o.hang label d).size = o.size + 1 := by
  fun_induction hang label o d with
  | case1 d => rfl
  | case2 l below after ih =>
    simp only [size, ih]
    omega
  | case3 l below d ih => simp only [size, ih]
  | case4 l below l' below' after' d ih =>
    rw [size_node, ih, size_node l below]
    rfl

theorem spine_node (h : o ≠ nil) (l : Label) (below : Outline) (k : Nat) :
    (node l below o).spine k = o.spine (k + 1 + below.size) := by
  cases o with
  | nil => exact absurd rfl h
  | node l' below' after' => rw [spine]

theorem spine_bounds (h : x ∈ o.spine k) : k ≤ x ∧ x < k + o.size := by
  fun_induction spine o k with
  | case1 => cases h
  | case2 l below k ih =>
    simp only [size]
    rcases List.mem_cons.mp h with rfl | h
    · omega
    · have := ih h
      omega
  | case3 l below l' below' after' k ih =>
    have := ih h
    rw [size]
    omega

theorem spine_hang (label : Label) (hd : d ≤ (o.spine k).length) :
    (o.hang label d).spine k = (o.spine k).take d ++ [k + o.size] := by
  fun_induction hang label o d generalizing k with
  | case1 d =>
    have h0 : d = 0 := Nat.le_zero.mp hd
    subst h0
    rfl
  | case2 l below after ih =>
    rw [spine_node hang_ne_nil, ih (Nat.zero_le _)]
    simp only [List.take_zero, List.nil_append, size]
    congr 1
    omega
  | case3 l below d ih =>
    simp only [spine, List.length_cons] at hd ⊢
    rw [ih (Nat.le_of_succ_le_succ hd), List.take_succ_cons, List.cons_append]
    simp only [size]
    congr 3
    omega
  | case4 l below l' below' after' d ih =>
    rw [spine] at hd ⊢
    rw [spine_node hang_ne_nil, ih hd, size_node l below]
    congr 2
    omega

theorem Numbered.congr (h : ∀ x, k ≤ x → x < k + o.size → more x = look x)
    (ho : o.Numbered look k ids) : o.Numbered more k ids := by
  induction o generalizing k ids with
  | nil => exact ho
  | node label below after ihb iha =>
    obtain ⟨kids, rest, rfl, hk, hb, ha⟩ := ho
    simp only [size] at h
    refine ⟨kids, rest, rfl, ?_, ihb (fun x _ _ => h x ?_ ?_) hb, iha (fun x _ _ => h x ?_ ?_) ha⟩
    · rw [h k (Nat.le_refl _) (by omega), hk]
    all_goals omega

def withChild (look : Nat → Option (Label × List Nat)) (p id : Nat) (label : Label) :
    Nat → Option (Label × List Nat) := fun x =>
  if x = id then some (label, [])
  else if x = p then (look x).map fun e => (e.1, e.2 ++ [id])
  else look x

theorem withChild_self : withChild look p x label x = some (label, []) := if_pos rfl

theorem withChild_other {id : Nat} (h : x ≠ id) (hp : x ≠ p) :
    withChild look p id label x = look x := by
  rw [withChild, if_neg h, if_neg hp]

theorem Numbered.node_after {after : Outline} {l : Label} {below : Outline} {kids rest : List Nat}
    (hk : look k = some (l, kids)) (hb : below.Numbered look (k + 1) kids)
    (h : ∀ x, k ≤ x → x < k + 1 + below.size → more x = look x)
    (ha : after.Numbered more (k + 1 + below.size) rest) :
    (node l below after).Numbered more k (k :: rest) := by
  refine ⟨kids, rest, rfl, ?_, hb.congr fun x hge hlt => h x (Nat.le_of_succ_le hge) hlt, ha⟩
  rw [h k (Nat.le_refl _) (by omega), hk]

theorem Numbered.hang {id : Nat} (label : Label)
    (hp : match d with
      | 0 => p < k
      | e + 1 => (o.spine k)[e]? = some p)
    (hid : id = k + o.size) (ho : o.Numbered look k ids) :
    (o.hang label d).Numbered (withChild look p id label) k
        (if d = 0 then ids ++ [id] else ids) := by
  fun_induction Outline.hang label o d generalizing k ids with
  | case1 d =>
    cases d with
    | zero =>
      have hids : ids = [] := ho
      subst hids
      exact ⟨[], [], by simp [hid, size],
        by rw [← hid.trans (Nat.add_zero k), withChild_self], rfl, rfl⟩
    | succ e => simp [spine] at hp
  | case2 l below after ih =>
    obtain ⟨kids, rest, rfl, hk, hb, ha⟩ := ho
    simp only at hp
    simp only [size_node] at hid
    refine hb.node_after hk (fun x hge hlt => withChild_other ?_ ?_) ?_
    · omega
    · omega
    · exact ih (k := k + 1 + below.size) (by simp only; omega) (by omega) ha
  | case3 l below d ih =>
    obtain ⟨kids, rest, rfl, hk, hb, ha⟩ := ho
    simp only [spine] at hp
    simp only [size] at hid
    cases d with
    | zero =>
      -- the new node is the last child of the last node of this row
      have hpk : k = p := Option.some.inj hp
      subst hpk
      refine ⟨kids ++ [id], rest, rfl, ?_, ih (k := k + 1) (Nat.lt_succ_self k) (by omega) hb, ha⟩
      rw [withChild, if_neg (by omega), if_pos rfl, hk, Option.map_some]
    | succ e =>
      have hbounds := spine_bounds (List.mem_of_getElem? hp)
      refine ⟨kids, rest, rfl, ?_, ih (k := k + 1) hp (by omega) hb, ha⟩
      rw [withChild_other (by omega) (by omega), hk]
  | case4 l below l' below' after' d ih =>
    obtain ⟨kids, rest, rfl, hk, hb, ha⟩ := ho
    simp only [spine] at hp
    simp only [size_node l below] at hid
    have hbounds := spine_bounds (List.mem_of_getElem? hp)
    refine hb.node_after hk (fun x hge hlt => withChild_other ?_ ?_) ?_
    · omega
    · omega
    · exact ih (k := k + 1 + below.size) hp (by omega) ha

end Outline

namespace Forest

variable {f : Forest} {o : Outline} {k : Nat} {ids : List Nat}

def leaf? (f : Forest) (id : NodeId) : Option (Label × List NodeId) :=
  (f.get? id).map fun n => (n.body.label, n.childIds)

theorem shown_of_numbered (ho : o.Numbered f.leaf? k ids) : o.OutlineOf f.get? ids := by
  induction o generalizing k ids with
  | nil => exact ho
  | node label below after ihb iha =>
    obtain ⟨kids, rest, rfl, hk, hb, ha⟩ := ho
    obtain ⟨n, hn, he⟩ := Option.map_eq_some_iff.mp hk
    cases he
    exact ⟨k, rest, n, rfl, hn, rfl, ihb hb, iha ha⟩

theorem unfoldFrom_numbered (ho : o.Numbered f.leaf? k ids) (n : Nat) (stack : List Nat) :
    f.unfoldFrom (o.size + n) (ids ++ stack) = List.range' k o.size ++ f.unfoldFrom n stack := by
  induction o generalizing k ids n stack with
  | nil =>
    rw [show ids = [] from ho]
    simp [Outline.size]
  | node label below after ihb iha =>
    obtain ⟨kids, rest, rfl, hk, hb, ha⟩ := ho
    have hkids : f.childIds k = kids := by
      obtain ⟨node, hnode, he⟩ := Option.map_eq_some_iff.mp hk
      cases he
      rw [childIds, hnode]
    have hfuel : (Outline.node label below after).size + n =
        below.size + (after.size + n) + 1 := by
      simp only [Outline.size]
      omega
    have hrange : List.range' k (Outline.node label below after).size =
        k :: (List.range' (k + 1) below.size ++
          List.range' (k + 1 + below.size) after.size) := by
      rw [Outline.size, List.range'_succ, List.range'_append_1]
    rw [hfuel, List.cons_append, unfoldFrom, hkids, ihb hb, iha ha, hrange, List.cons_append,
      List.append_assoc]

theorem descendants_numbered (ho : o.Numbered f.leaf? k [k]) (hsize : o.size ≤ f.size)
    (hk : k < f.size) : f.descendants k = .ok (List.range' k o.size) := by
  obtain ⟨n, _, hfind⟩ := find_of_lt hk
  have hall := unfoldFrom_numbered ho (f.size - o.size) []
  rw [Nat.add_sub_cancel' hsize, List.append_nil] at hall
  have hend : f.unfoldFrom (f.size - o.size) [] = [] := by
    cases f.size - o.size <;> rfl
  rw [hend, List.append_nil] at hall
  rw [descendants, hfind, ← hall]
  rfl

end Forest

end MarkupForest
