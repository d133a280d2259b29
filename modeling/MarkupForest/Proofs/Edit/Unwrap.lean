import MarkupForest.Proofs.Edit.Wrap

namespace MarkupForest

open Edit Forest

variable {f g k : Forest} {c p x w y root : NodeId} {config : ReaderConfig} {markup base : String}

namespace Forest

/-- The new node `w` was put around `x`, a child of `p`. -/
structure Wrapped (f k : Forest) (p x w : NodeId) : Prop where
  wellFormed : k.WellFormed
  new : f.size ≤ w
  outer : k.parent? w = some p
  inner : k.parent? x = some w
  children : k.childIds w = [x]
  place : ∃ before after, f.childIds p = before ++ x :: after ∧ k.childIds p = before ++ w :: after
  parent : ∀ y, y < f.size → y ≠ x → k.parent? y = f.parent? y
  lists : ∀ y, y < f.size → y ≠ p → k.childIds y = f.childIds y

end Forest

theorem wrapIn_wrapped (hg : Fragment f g root [w]) (hf : f.WellFormed) (hp : f.parent? x = some p)
    (he : g.isElement w = true) (hnone : g.childIds w = []) :
    ∃ k, wrapIn x (some p) [w] g = .ok x k ∧ f.Wrapped k p x w := by
  obtain ⟨q, k, hk, hq, hwrapped⟩ := wrappedIn_wrapIn hg hf (lt_of_parent? hp) he
  rw [hp] at hk
  have hself : g.Innermost w w := .bottom (by rw [hnone]; rfl)
  obtain rfl := hself.unique hq
  have hnew := hg.fresh hf (List.mem_singleton_self w)
  have hkept : ∀ y, y < f.size → _ := fun y hy => hg.kept_of_wrappedIn hf hwrapped hnew hy
  refine ⟨k, hk, hwrapped.wellFormed, hnew, ?_, hwrapped.inner, ?_, ?_, ?_, ?_⟩
  · exact (hwrapped.outer w List.mem_cons_self).trans hp
  · rw [hwrapped.content, hnone, List.nil_append]
  · obtain ⟨before, after, hsplit, hplace⟩ := hwrapped.place p hp
    exact ⟨before, after, hsplit, by simpa using hplace⟩
  · intro y hy
    exact (hkept y hy).1
  · intro y hy hyp
    apply (hkept y hy).2.1
    rw [hp]
    exact fun he => hyp (Option.some.inj he).symm

namespace Forest.Wrapped

variable (hw : f.Wrapped k p x w) (hf : f.WellFormed) (hp : f.parent? x = some p)
include hw

theorem ne_of_lt (hy : y < f.size) : y ≠ w := Nat.ne_of_lt (Nat.lt_of_lt_of_le hy hw.new)

include hf hp

theorem unwrap_ok : ∃ l, unwrap w k = .ok (some x) l ∧
    (∀ y, y < f.size → l.parent? y = f.parent? y ∧ l.childIds y = f.childIds y) ∧
    l.parent? w = none ∧ l.childIds w = [] := by
  have hcheck : k.checkParent "unwrap" w = .ok p := checkParent_of_parent? hw.outer
  have hrun := checksFirst_unwrap.ok hw.wellFormed (by rw [hcheck]; rfl)
  obtain ⟨before, after, hsplit, hplace⟩ := hw.place
  have hspliced := hw.wellFormed.spliced_unwrapMove hw.outer hplace
  rw [hw.children] at hrun hspliced
  have hlists : ∀ y, y ≠ p → (k.unwrapMove w).childIds y = (k.childIds y).filter (· ∉ [x]) :=
    fun y hy => hspliced.lists y fun he => hy (Option.some.inj he).symm
  refine ⟨_, hrun, fun y hy => ⟨?_, ?_⟩, ?_, ?_⟩
  · by_cases hyx : y = x
    · rw [hspliced.parent]
      simp [hyx, hw.ne_of_lt (lt_of_parent? hp), hp]
    · rw [hspliced.parent_eq (by simpa using hyx) (by simpa using hw.ne_of_lt hy),
        hw.parent y hy hyx]
  · by_cases hyp : y = p
    · rw [hyp, hspliced.row, hsplit, List.append_assoc]
      rfl
    · have hnode : x ∉ f.childIds y := by
        rw [hf.mem_iff, hp]
        exact fun h => hyp (Option.some.inj h).symm
      rw [hlists y hyp, hw.lists y hy hyp]
      simpa using filter_ne_of_not_mem hnode
  · simpa using hspliced.parent w
  · rw [hlists w (hw.ne_of_lt (hf.parent_lt hp)).symm, hw.children]
    simp

end Forest.Wrapped

theorem Forest.childIds_fragmentGround :
    (f.fragmentGround base).childIds f.size = [] := by
  have hnew : (f.push (.ofBody (.element fragmentTag .empty))).childIds f.size = [] :=
    childIds_push_self rfl
  unfold fragmentGround
  dsimp only
  split
  · exact hnew
  · rw [childIds_eq_childList?, changeAttributes, sameLinks_mapAttributes.list,
      ← childIds_eq_childList?, hnew]

theorem childIds_withFragment_nil {context : Option NodeId} :
    (f.withFragment config context "" base).childIds f.size = [] := by
  have htokens : ∀ dialect, Token.tokens dialect "" = [] := fun dialect => by
    have hrest : (Text.Place.start "".toList).rest = [] := rfl
    rw [Token.tokens, Token.scan, dif_pos hrest]
  have hgrow :
      ∀ g : Forest, ∀ cases dialect tracks root, g.grow cases dialect tracks root "" = g := by
    intro g cases dialect tracks root
    rw [Forest.grow, htokens]
    cases tracks <;> rfl
  rw [withFragment, hgrow]
  exact childIds_fragmentGround

theorem unwrap_undoes_wrap (h : Reachable f) (hp : f.parent? x = some p)
    (hbase : f.baseUri x = .ok base)
    (hread : readFragment config markup (some p) base f = .ok [w] g) (he : g.isElement w = true)
    (hnone : g.childIds w = []) :
    ∃ k l, wrap (readFragment config) x markup f = .ok x k ∧ f.Wrapped k p x w ∧
      unwrap w k = .ok (some x) l ∧
      (∀ y, y < f.size → l.parent? y = f.parent? y ∧ l.childIds y = f.childIds y) ∧
      l.parent? w = none ∧ l.childIds w = [] := by
  have hf := h.wellFormed
  have hcontext : ∀ c ∈ some p, c < f.size := by
    intro c hc
    cases hc
    exact hf.parent_lt hp
  have hfragment := (hf.withFragment config (some p) markup base).1
  have hresult := readFragment_ok config markup base hf hcontext
  rw [hread] at hresult
  injection hresult with hids hforest
  rw [← hids, ← hforest] at hfragment
  have hmarkup : markup ≠ "" := by
    rintro rfl
    rw [childIds_withFragment_nil] at hids
    cases hids
  obtain ⟨k, hk, hwrapped⟩ := wrapIn_wrapped hfragment hf hp he hnone
  obtain ⟨l, hl, hrestored, hfree, hempty⟩ := hwrapped.unwrap_ok hf hp
  refine ⟨k, l, ?_, hwrapped, hl, hrestored, hfree, hempty⟩
  unfold wrap
  rw [if_neg hmarkup]
  dsimp only
  rw [bind_ok (ask_ok (parent_of_lt (lt_of_parent? hp))), bind_ok (ask_ok hbase), hp,
    Option.getD_some, bind_ok hread, hk]

theorem unwrap_undoes_wrap_twoLists :
    Reachable twoLists ∧ ∃ k l, wrap (readFragment .html) 2 "<b></b>" twoLists = .ok 2 k ∧
      twoLists.Wrapped k 0 2 7 ∧ unwrap 7 k = .ok (some 2) l ∧
      (∀ y, y < 6 → l.parent? y = twoLists.parent? y ∧ l.childIds y = twoLists.childIds y) ∧
      l.parent? 7 = none ∧ l.childIds 7 = [] := by
  have h : Reachable twoLists := reaches_runAll _
  have hp : twoLists.parent? 2 = some 0 := by decide
  have hbase : twoLists.baseUri 2 = .ok "" := rfl
  have hread : readFragment .html "<b></b>" (some 0) "" twoLists = _ :=
    readFragment_ok .html "<b></b>" "" h.wellFormed (by decide)
  have hids : (twoLists.withFragment .html (some 0) "<b></b>" "").childIds twoLists.size = [7] := by
    decide +kernel
  rw [hids] at hread
  exact ⟨h, unwrap_undoes_wrap h hp hbase hread (by decide +kernel) (by decide +kernel)⟩

end MarkupForest
