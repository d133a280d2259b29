import MarkupForest.Proofs.Edit.Failure
import MarkupForest.Proofs.Outline.Basic

namespace MarkupForest

open Edit Forest

variable {f g k s t : Forest} {c p q w x y root : NodeId} {ids rest : List NodeId}
  {config : ReaderConfig} {markup : String}

namespace Forest

inductive Innermost (f : Forest) : NodeId → NodeId → Prop
  | bottom {x : NodeId} (h : (f.childIds x).find? f.isElement = none) : f.Innermost x x
  | down {x c y : NodeId} (h : (f.childIds x).find? f.isElement = some c)
      (hc : f.Innermost c y) : f.Innermost x y

theorem Innermost.above (h : f.Innermost x y) (hf : f.WellFormed) : f.Above x y := by
  induction h with
  | bottom => exact .refl _
  | down h _ ih =>
    have hp := hf.mem_iff.mp (List.mem_of_find?_eq_some h)
    exact ((Above.refl _).of_parent hp).trans ih

theorem Innermost.unique {z : NodeId} (h : f.Innermost x y) (hz : f.Innermost x z) : y = z := by
  induction h with
  | bottom h =>
    cases hz with
    | bottom => rfl
    | down hc _ => rw [h] at hc; cases hc
  | down h _ ih =>
    cases hz with
    | bottom hn => rw [h] at hn; cases hn
    | down hc hz =>
      rw [h] at hc
      cases hc
      exact ih hz

theorem WellFormed.innermost_descend (hf : f.WellFormed) {n : Nat} (hx : x < f.size)
    (hn : (f.under x).card ≤ n) : f.Innermost x (f.descend n x) := by
  induction n generalizing x with
  | zero =>
    have hsum := hf.sum_card_under hx
    omega
  | succ n ih =>
    unfold descend
    split
    · next c hc =>
      have hmem := List.mem_of_find?_eq_some hc
      have hsum := hf.sum_card_under hx
      have hle : (f.under c).card ≤ ((f.childIds x).map fun c => (f.under c).card).sum :=
        List.single_le_sum (by simp) _ (List.mem_map.mpr ⟨c, hmem, rfl⟩)
      exact .down hc (ih (hf.lt_of_mem hmem) (by omega))
    · next hc => exact .bottom hc

/-- In `k` node `x` of `f` is wrapped in the fragment `w :: rest`, at the end of its element `q`. -/
structure WrappedIn (f g k : Forest) (root x w q : NodeId) (rest : List NodeId) : Prop where
  wellFormed : k.WellFormed
  inner : k.parent? x = some q
  content : k.childIds q = g.childIds q ++ [x]
  outer : ∀ c ∈ w :: rest, k.parent? c = f.parent? x
  place : ∀ p, f.parent? x = some p → ∃ before after,
    f.childIds p = before ++ x :: after ∧ k.childIds p = before ++ w :: rest ++ after
  left : k.childIds root = []
  parent : ∀ y, y ≠ x → y ∉ w :: rest → k.parent? y = g.parent? y
  lists : ∀ y, y ≠ q → y ≠ root → f.parent? x ≠ some y → k.childIds y = g.childIds y
  size : k.size = g.size
  payload : ∀ y, k.payload? y = g.payload? y

theorem WellFormed.parent?_ne_of_size_le (hf : f.WellFormed) (hy : f.size ≤ y) :
    f.parent? x ≠ some y :=
  fun hp => absurd (hf.parent_lt hp) (Nat.not_lt.mpr hy)

section Seat

variable (hg : Fragment f g root (w :: rest)) (hf : f.WellFormed)
include hg hf

theorem Fragment.innermost_fresh (hq : g.Innermost w q) : f.size ≤ q := by
  by_contra hlt
  exact hg.not_above hf (Nat.lt_of_not_le hlt) List.mem_cons_self (hq.above hg.wellFormed)

omit hf in
theorem Fragment.innermost_ne_root (hq : g.Innermost w q) : q ≠ root := by
  rintro rfl
  have hroot : g.parent? w = some q :=
    hg.wellFormed.mem_iff.mp (hg.children ▸ List.mem_cons_self)
  exact hg.wellFormed.acyclic.not_above_parent hroot (hq.above hg.wellFormed)

variable (hx : x < f.size)
include hx

theorem Fragment.childIds_seat (hp : f.parent? x = some p) : ∃ before after,
    f.childIds p = before ++ x :: after ∧
      (g.seat (f.parent? x) x w).childIds p = before ++ w :: after ∧
      ∀ c ∈ x :: rest, c ∉ before ++ w :: after := by
  have hm := List.mem_cons_self (a := w) (l := rest)
  have hxw := hg.ne_of_lt hf hx hm
  obtain ⟨before, after, hrow⟩ := hf.exists_middle hp
  have hfresh : ∀ {c}, c ∈ w :: rest → c ∉ f.childIds p := fun hc hmem =>
    hg.ne_of_lt hf (hf.lt_of_mem hmem) hc rfl
  have hspliced := hg.wellFormed.spliced_exchange ((hg.old.parent?_eq hx).trans hp)
    (hg.wellFormed.lt_of_mem (hg.children ▸ hm)) hxw.symm
    (by rw [hg.old.childIds_eq (hf.parent_lt hp), filter_ne_of_not_mem (hfresh hm), hrow])
  refine ⟨before, after, hrow, ?_, ?_⟩
  · rw [hp, seat, hspliced.row, List.append_assoc]
    rfl
  · intro c hc
    rcases List.mem_cons.mp hc with rfl | hc
    · have hgone := hf.not_mem_split hrow
      simp_all
    · have hcw : c ≠ w := by
        rintro rfl
        exact (List.nodup_cons.mp (hg.children ▸ hg.wellFormed.nodup root)).1 hc
      have hgone := hfresh (List.mem_cons_of_mem w hc)
      rw [hrow] at hgone
      simp_all

omit hf in
theorem Fragment.apart_of_mem (hy : y ≠ root) (hp : f.parent? x ≠ some y) (hc : c ∈ g.childIds y) :
    c ≠ x ∧ c ∉ w :: rest := by
  constructor
  · rintro rfl
    rw [hg.wellFormed.mem_iff, hg.old.parent?_eq hx] at hc
    exact hp hc
  · exact fun hm => hg.not_mem_childIds hm hy hc

section Moves

variable (ht : (g.seat (f.parent? x) x w).Spliced t q
    (((g.seat (f.parent? x) x w).childIds q).filter (· ≠ x)) [x] [] [])
  (hk : t.Moved k (f.parent? x) rest [])
include ht hk

theorem Fragment.parent?_wrappedIn (y : NodeId) : k.parent? y =
    if y ∈ rest then f.parent? x else
      if y = x then some q else if y = w then f.parent? x else g.parent? y := by
  rw [hk.parent, ht.parent, (hg.moved_seat hf hx).parent]
  by_cases hyx : y = x <;> simp [hyx]

theorem Fragment.childIds_wrappedIn (hq : f.size ≤ q) (hy : y ≠ root) (hp : f.parent? x ≠ some y) :
    k.childIds y = if y = q then g.childIds q ++ [x] else g.childIds y := by
  have hapart : ∀ c ∈ g.childIds y, c ≠ x ∧ c ∉ w :: rest := fun c hc =>
    hg.apart_of_mem hx hy hp hc
  have hseat : (g.seat (f.parent? x) x w).childIds y = g.childIds y := by
    apply (hg.moved_seat hf hx).childIds_eq hp
    intro c hc hcw
    exact (hapart c hc).2 (List.mem_singleton.mp hcw ▸ List.mem_cons_self)
  have hside : t.childIds y = if y = q then g.childIds q ++ [x] else g.childIds y := by
    by_cases hyq : y = q
    · subst hyq
      have hnot : x ∉ g.childIds y := fun h => (hapart x h).1 rfl
      rw [if_pos rfl, ht.row, hseat, filter_ne_of_not_mem hnot, List.append_nil]
    · have hqy : some q ≠ some y := fun he => hyq (Option.some.inj he).symm
      rw [if_neg hyq, ht.lists y hqy, hseat]
      exact List.filter_eq_self.mpr fun c hc => by simpa using (hapart c hc).1
  rw [hk.lists y hp, hside]
  apply List.filter_eq_self.mpr
  intro c hc
  have hold : c ∈ g.childIds y ∨ c = x := by
    split at hc
    · next hyq => simpa [hyq] using hc
    · exact .inl hc
  rcases hold with hc | rfl
  · simpa using fun h => (hapart c hc).2 (List.mem_cons_of_mem w h)
  · simpa using fun h => hg.ne_of_lt hf hx (List.mem_cons_of_mem w h) rfl

theorem Fragment.wrappedIn (hq : g.Innermost w q)
    (hplace : ∀ p before after, f.parent? x = some p → t.childIds p = before ++ w :: after →
      (∀ c ∈ rest, c ∉ before ++ w :: after) → k.childIds p = before ++ w :: rest ++ after)
    (hw : k.WellFormed) : f.WrappedIn g k root x w q rest := by
  have hs := hg.moved_seat hf hx
  have hqnew := hg.innermost_fresh hf hq
  have hqroot := hg.innermost_ne_root hq
  have hparent := hg.parent?_wrappedIn hf hx ht hk
  have hlists : ∀ {y}, y ≠ root → f.parent? x ≠ some y → k.childIds y = _ := fun hy hp =>
    hg.childIds_wrappedIn hf hx ht hk hqnew hy hp
  have hnew : ∀ c ∈ w :: rest, c ≠ x := fun c hc => (hg.ne_of_lt hf hx hc).symm
  refine ⟨hw, ?_, ?_, ?_, ?_, ?_, ?_, ?_, ?_, ?_⟩
  · rw [hparent, if_neg fun h => hnew x (List.mem_cons_of_mem w h) rfl, if_pos rfl]
  · rw [hlists hqroot (hf.parent?_ne_of_size_le hqnew), if_pos rfl]
  · intro c hc
    rw [hparent, if_neg (hnew c hc)]
    rcases List.mem_cons.mp hc with rfl | hc
    · simp
    · rw [if_pos hc]
  · intro p hp
    obtain ⟨before, after, hrow, hput, hgone⟩ := hg.childIds_seat hf hx hp
    have hqp : some q ≠ some p := fun he => hf.parent?_ne_of_size_le hqnew (hp.trans he.symm)
    have hsame : t.childIds p = before ++ w :: after := by
      rw [ht.lists p hqp, hput]
      apply List.filter_eq_self.mpr
      intro c hc
      have hcx : c ≠ x := fun he => hgone x List.mem_cons_self (he ▸ hc)
      simpa using hcx
    refine ⟨before, after, hrow, hplace p before after hp hsame ?_⟩
    exact fun c hc => hgone c (List.mem_cons_of_mem x hc)
  · have hroot : f.parent? x ≠ some root := hf.parent?_ne_of_size_le hg.new
    rw [hk.lists root hroot, ht.lists root fun he => hqroot (Option.some.inj he),
      hs.lists root hroot, hg.children]
    simp +contextual
  · intro y hyx hy
    rw [List.mem_cons, not_or] at hy
    rw [hparent, if_neg hy.2, if_neg hyx, if_neg hy.1]
  · intro y hyq hyroot hp
    rw [hlists hyroot hp, if_neg hyq]
  · rw [hk.size, ht.size, hs.size]
  · intro y
    rw [hk.payload, ht.payload, hs.payload]

end Moves

omit hx in
theorem Fragment.kept_of_wrappedIn (hk : f.WrappedIn g k root x w q rest) (hq : f.size ≤ q)
    (hy : y < f.size) : (y ≠ x → k.parent? y = f.parent? y) ∧
      (f.parent? x ≠ some y → k.childIds y = f.childIds y) ∧ k.payload? y = f.payload? y := by
  have hnew : ∀ {c}, f.size ≤ c → y ≠ c := fun hc => Nat.ne_of_lt (Nat.lt_of_lt_of_le hy hc)
  refine ⟨?_, ?_, ?_⟩
  · intro hyx
    rw [hk.parent y hyx fun hm => hnew (hg.fresh hf hm) rfl, hg.old.parent?_eq hy]
  · intro hp
    rw [hk.lists y (hnew hq) (hnew hg.new) hp, hg.old.childIds_eq hy]
  · rw [hk.payload, hg.old.payload?_eq hy]

end Seat

end Forest

theorem wrappedIn_wrapIn (hg : Fragment f g root (w :: rest)) (hf : f.WellFormed) (hx : x < f.size)
    (he : g.isElement w = true) : ∃ q k, wrapIn x (f.parent? x) (w :: rest) g = .ok x k ∧
      g.Innermost w q ∧ f.WrappedIn g k root x w q rest := by
  have hwrapping := wrapping_seat hg hf hx he
  obtain ⟨k, hk, hshift, hplace⟩ := hwrapping.run
  have hrun := (wrapIn_seat hg hf hx he).trans hk
  have hwlt : w < g.size := hg.wellFormed.lt_of_mem (hg.children ▸ List.mem_cons_self)
  have hq : g.Innermost w (g.descend g.size w) :=
    hg.wellFormed.innermost_descend hwlt card_under_le
  have hhome : (g.seat (f.parent? x) x w).parent? w = f.parent? x := by
    have hne := (hg.ne_of_lt hf hx (List.mem_cons_self (a := w) (l := rest))).symm
    simpa [hne] using (hg.moved_seat hf hx).parent w
  rw [hhome] at hshift hplace
  have ht := hwrapping.wellFormed.spliced_append hwrapping.checkAppend_ok
  refine ⟨_, k, hrun, hq, hg.wrappedIn hf hx ht hshift hq hplace ?_⟩
  exact after_ok hrun ▸ safe_wrapIn hg.wellFormed

theorem wrap_places_pieces (config : ReaderConfig) (h : Reachable f) (hx : x < f.size)
    (hm : markup ≠ "") :
    ∃ base ids g k, f.baseUri x = .ok base ∧
      readFragment config markup (some ((f.parent? x).getD x)) base f = .ok ids g ∧
      Fragment f g f.size ids ∧ wrap (readFragment config) x markup f = .ok x k ∧
      ((∀ w ∈ ids.head?, g.isElement w = false) → k = g) ∧
      ∀ w rest, ids = w :: rest → g.isElement w = true → ∃ q, g.Innermost w q ∧
        f.WrappedIn g k f.size x w q rest ∧ (∀ c ∈ q :: w :: rest, f.size ≤ c) ∧
        (∀ y, y < f.size → (y ≠ x → k.parent? y = f.parent? y) ∧
          (f.parent? x ≠ some y → k.childIds y = f.childIds y) ∧ k.payload? y = f.payload? y) ∧
        ∀ y, f.Above x y → k.childIds y = f.childIds y := by
  have hf := h.wellFormed
  have hbase := baseUri_ok hx
  obtain ⟨hread, hwrap⟩ := wrap_eq_wrapIn config hf hx hm hbase
  have hg := (hf.withFragment config (some ((f.parent? x).getD x)) markup
    (((f.lineage x).findSome? f.ownBase?).getD "")).1
  generalize f.withFragment config (some ((f.parent? x).getD x)) markup
    (((f.lineage x).findSome? f.ownBase?).getD "") = g at hread hwrap hg
  generalize g.childIds f.size = ids at hread hwrap hg
  obtain hfirst | ⟨w, rest, rfl, he⟩ := leading_element g ids
  · refine ⟨_, ids, g, g, hbase, hread, hg, hwrap.trans (wrapIn_plain hfirst), fun _ => rfl, ?_⟩
    rintro w rest rfl he
    rw [hfirst w rfl] at he
    cases he
  · obtain ⟨q, k, hk, hq, hwrapped⟩ := wrappedIn_wrapIn hg hf hx he
    refine ⟨_, w :: rest, g, k, hbase, hread, hg, hwrap.trans hk, fun hno => ?_, ?_⟩
    · rw [hno w rfl] at he
      cases he
    · rintro _ _ ⟨⟩ -
      have hnew := hg.innermost_fresh hf hq
      have hkept : ∀ y, y < f.size → _ := fun y hy => hg.kept_of_wrappedIn hf hwrapped hnew hy
      refine ⟨q, hq, hwrapped, ?_, hkept, ?_⟩
      · intro c hc
        rcases List.mem_cons.mp hc with rfl | hc
        · exact hnew
        · exact hg.fresh hf hc
      · -- the parent of the node is not below it
        intro y hy
        by_cases hlt : y < f.size
        · apply (hkept y hlt).2.1
          exact fun hp => hf.acyclic.not_above_parent hp hy
        · rcases above_iff.mp hy with rfl | ⟨p, hp, -⟩
          · exact absurd hx hlt
          · exact absurd (lt_of_parent? hp) hlt

theorem wrap_places_pieces_twoLists : Reachable twoLists ∧ ∃ g k,
    readFragment .html "<b><i></i></b>!" (some 0) "" twoLists = .ok [7, 9] g ∧
      wrap (readFragment .html) 2 "<b><i></i></b>!" twoLists = .ok 2 k ∧
      g.Innermost 7 8 ∧ twoLists.WrappedIn g k 6 2 7 8 [9] := by
  have h : Reachable twoLists := reaches_runAll _
  obtain ⟨base, ids, g, k, hbase, hread, -, hk, -, hwrapped⟩ :=
    wrap_places_pieces .html h (by decide : 2 < twoLists.size) (by decide : "<b><i></i></b>!" ≠ "")
  obtain rfl : "" = base := Except.ok.inj hbase
  have hresult :=
      hread.symm.trans (readFragment_ok .html "<b><i></i></b>!" "" h.wellFormed (by decide))
  injection hresult with hids hg
  have hrow : ids = [7, 9] := hids.trans (by decide +kernel)
  subst hrow
  obtain ⟨q, hq, hwrapped, -⟩ := hwrapped 7 [9] rfl (hg ▸ by decide +kernel)
  have hfirst : (g.childIds 7).find? g.isElement = some 8 := hg ▸ by decide +kernel
  have hlast : (g.childIds 8).find? g.isElement = none := hg ▸ by decide +kernel
  have hinner : g.Innermost 7 8 := .down hfirst (.bottom hlast)
  obtain rfl := hinner.unique hq
  exact ⟨h, g, k, hread, hk, hinner, hwrapped⟩

end MarkupForest
