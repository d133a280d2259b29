import MarkupForest.Proofs.Tour.Plans

namespace MarkupForest

open Edit Forest

variable {σ : Type} {f g k : Forest} {c p top x : NodeId} {d depth : Nat}

namespace Forest

inductive DepthBelow (f : Forest) (top : NodeId) : Nat → NodeId → Prop
  | top : DepthBelow f top 0 top
  | down {d : Nat} {x p : NodeId} : f.parent? x = some p → DepthBelow f top d p →
    DepthBelow f top (d + 1) x

theorem DepthBelow.above (h : f.DepthBelow top d x) : f.Above top x := by
  induction h with
  | top => exact .refl top
  | down hp _ ih => exact ih.of_parent hp

theorem DepthBelow.eq_zero (hf : f.WellFormed) (h : f.DepthBelow top d top) : d = 0 := by
  cases h with
  | top => rfl
  | down hp h => exact absurd h.above (hf.acyclic.not_above_parent hp)

theorem DepthBelow.cases_of_ne (h : f.DepthBelow top d x) (hne : x ≠ top) :
    ∃ p n, f.parent? x = some p ∧ d = n + 1 ∧ f.DepthBelow top n p := by
  cases h with
  | top => exact absurd rfl hne
  | down hp h => exact ⟨_, _, hp, rfl, h⟩

theorem DepthBelow.stays (hf : f.WellFormed) (h : f.DepthBelow top d x)
    (hg : ∀ y, y ≠ top → f.Above top y → f.Above y x → g.parent? y = f.parent? y) :
    g.DepthBelow top d x := by
  induction h with
  | top => exact .top
  | @down d x p hp h ih =>
    have hne : x ≠ top := by
      rintro rfl
      exact hf.acyclic.not_above_parent hp h.above
    refine .down ((hg x hne (h.above.of_parent hp) (.refl x)).trans hp) (ih fun y hy htop hyp => ?_)
    exact hg y hy htop (hyp.of_parent hp)

end Forest

namespace Tour

def DepthCorrect (t : Tour) (f : Forest) : Prop :=
  match t.stage with
  | .entering id depth | .leaving id depth => f.DepthBelow t.root depth id
  | .finished => True

inductive VisitorCall (guide : Guide σ) : Tour → Forest × σ → Forest × σ → Prop
  | enter {root id : NodeId} {depth : Nat} {n : Note} {f g : Forest} {s : σ} {r : Forest × σ} :
      note id f = .ok n g → guide (.enter id depth) (g, s) = .ok () r →
      VisitorCall guide ⟨root, .entering id depth⟩ (f, s) r
  | leave {root id : NodeId} {depth : Nat} {r r' : Forest × σ} :
      guide (.leave id depth) r = .ok () r' → VisitorCall guide ⟨root, .leaving id depth⟩ r r'

/-- No node on the way up loses its parent, save that the entered node itself may be taken off. -/
def KeepsLineage (t : Tour) (f g : Forest) : Prop :=
  match t.stage with
  | .entering id _ =>
    (∀ y, y ≠ t.root → f.Above t.root y → f.Above y id → y ≠ id → g.parent? y = f.parent? y) ∧
    (id ≠ t.root → g.parent? id ≠ f.parent? id → ∀ p pre c post,
      f.childIds p = pre ++ id :: c :: post → g.parent? c = some p)
  | .leaving id _ =>
    ∀ y, y ≠ t.root → f.Above t.root y → f.Above y id → g.parent? y = f.parent? y
  | .finished => True

/-- The visitor takes the entered node, the last of its siblings, off its parent. -/
structure DetachesLast (guide : Guide σ) (t : Tour) (r : Forest × σ) (id p : NodeId) (depth : Nat)
    (r' : Forest × σ) : Prop where
  stage : t.stage = .entering id depth
  inner : id ≠ t.root
  last : (r.1.childIds p).getLast? = some id
  call : VisitorCall guide t r r'
  off : ∃ q, r'.1.parent id = .ok q ∧ q ≠ some p
  fewer : ∃ m, r'.1.childCount p = .ok m ∧ m ≠ (r.1.childIds p).length

variable {root id : NodeId} {t u : Tour} {r r' : Forest × σ} {guide : Guide σ} {n : Note}

theorem below_cases : below root id depth g = .ok (among root id depth (g.childIds id).head?) g ∨
    below root id depth g = .error (.noSuchNode id) g := by
  by_cases hid : id < g.size
  · exact .inl (below_eq hid)
  · have hfirst := firstChild_of_size_le (Nat.le_of_not_lt hid)
    exact .inr (by rw [below, bind_error (ask_error hfirst)])

inductive AfterEntry (root id p : NodeId) (count : Nat) (next : Option NodeId) (depth : Nat)
    (g : Forest) : EStateM.Result TreeError Forest Tour → Prop
  | kept : g.parent? id = some p → AfterEntry root id p count next depth g (below root id depth g)
  | replaced {x : NodeId} : x ∈ g.childIds p →
      AfterEntry root id p count next depth g (below (if id = root then x else root) x depth g)
  | ended : id = root → AfterEntry root id p count next depth g (.ok ⟨root, .finished⟩ g)
  | removed {q : Option NodeId} {m : Nat} : id ≠ root → g.parent id = .ok q → q ≠ some p →
      g.childCount p = .ok m → m ≠ count →
      AfterEntry root id p count next depth g (past root id p next depth g)
  | failed {y : TreeError} : (∀ x, y ≠ .unmet (.strayed x)) →
      AfterEntry root id p count next depth g (.error y g)

theorem afterEntry {next : Option NodeId} {count : Nat} {res : EStateM.Result TreeError Forest Tour}
    (h : afterEntering root id depth ⟨some p, count, next⟩ g = res) :
    AfterEntry root id p count next depth g res := by
  subst h
  by_cases hid : id < g.size
  · by_cases hkept : g.parent? id = some p
    · rw [afterEntering_kept hkept]
      exact .kept hkept
    · by_cases hp : p < g.size
      · by_cases hcount : (g.childIds p).length = count
        · obtain ⟨n, hfind, _⟩ := index?_of_lt hid
          show AfterEntry root id p count next depth g ((ask (·.parent id) >>= fun q => _) g)
          rw [bind_ok (ask_ok (parent_of_lt hid)), if_neg hkept,
            bind_ok (ask_ok (childCount_of_lt hp)),
            if_pos hcount, bind_ok (ask_ok hfind), ask_bind, child_of_lt hp]
          cases hx : (g.childIds p)[n.index]? with
          | some x => exact .replaced (List.mem_of_getElem? hx)
          | none => exact .failed (by simp)
        · by_cases hroot : id = root
          · subst hroot
            rw [afterEntering_top_removed hid hp hkept hcount]
            exact .ended rfl
          · rw [afterEntering_past hroot (parent_of_lt hid) hkept (childCount_of_lt hp) hcount]
            exact .removed hroot (parent_of_lt hid) hkept (childCount_of_lt hp) hcount
      · have hcount := childCount_of_size_le (Nat.le_of_not_lt hp)
        show AfterEntry root id p count next depth g ((ask (·.parent id) >>= fun q => _) g)
        rw [bind_ok (ask_ok (parent_of_lt hid)), if_neg hkept, bind_error (ask_error hcount)]
        exact .failed (by simp)
  · have hparent := parent_of_size_le (Nat.le_of_not_lt hid)
    show AfterEntry root id p count next depth g ((ask (·.parent id) >>= fun q => _) g)
    rw [bind_error (ask_error hparent)]
    exact .failed (by simp)

theorem note_cases (hf : f.WellFormed) (id : NodeId) :
    (f.parent? id = none ∧ note id f = .ok ⟨none, 0, none⟩ f) ∨
    (∃ p pre post, f.childIds p = pre ++ id :: post ∧
      note id f = .ok ⟨some p, (f.childIds p).length, post.head?⟩ (f.settle p)) ∨
    note id f = .error (.noSuchNode id) f := by
  by_cases hid : id < f.size
  · cases hp : f.parent? id with
    | none => exact .inl ⟨rfl, note_root hid hp⟩
    | some p =>
      obtain ⟨pre, post, hsplit⟩ := List.append_of_mem (hf.mem_iff.mpr hp)
      exact .inr (.inl ⟨p, pre, post, hsplit, note_child hf hsplit⟩)
  · have hparent := parent_of_size_le (Nat.le_of_not_lt hid)
    exact .inr (.inr (by rw [note, bind_error (ask_error hparent)]))

theorem error_of_afterLeaving {y : TreeError} (hg : g.WellFormed)
    (h : afterLeaving root id depth g = .error y k) : y = .noSuchNode id := by
  rw [afterLeaving] at h
  split at h
  · cases h
  · rw [nextSibling_eq] at h
    by_cases hid : id < g.size
    · cases hp : g.parent? id with
      | none =>
        rw [bind_ok (lookBeside_root hid hp)] at h
        dsimp only at h
        rw [ask_bind, parent_of_lt hid, hp] at h
        cases h
      | some p =>
        rw [bind_ok (lookBeside_child hg hp)] at h
        cases hnext : ((g.settle p).childIds p)[(g.childIds p).idxOf id + 1]? with
        | some c =>
          rw [hnext] at h
          cases h
        | none =>
          rw [hnext] at h
          dsimp only at h
          rw [ask_bind, parent_of_lt (by rwa [size_settle]), parent?_settle, hp] at h
          cases depth <;> cases h
    · rw [bind_error (lookBeside_missing (Nat.le_of_not_lt hid))] at h
      cases h
      rfl

theorem depthCorrect_among {first : Option NodeId} (h : g.DepthBelow root d p)
    (hfirst : ∀ c ∈ first, g.parent? c = some p) : (among root p d first).DepthCorrect g := by
  cases first with
  | none => exact h
  | some c => exact .down (hfirst c rfl) h

theorem depthCorrect_below (hg : g.WellFormed) (h : g.DepthBelow root depth id)
    (hrun : below root id depth g = .ok t k) : t.DepthCorrect k := by
  rcases below_cases with hb | hb
  · cases hb.symm.trans hrun
    exact depthCorrect_among h fun c hc => hg.mem_iff.mp (List.mem_of_mem_head? hc)
  · cases hb.symm.trans hrun

theorem depthCorrect_afterEntering {count : Nat} {next : Option NodeId} (hg : g.WellFormed)
    (hkept : g.parent? id = some p → g.DepthBelow root depth id)
    (hreplaced : ∀ x ∈ g.childIds p, g.DepthBelow (if id = root then x else root) depth x)
    (hremoved : id ≠ root → g.parent? id ≠ some p →
      ∃ d, depth = d + 1 ∧ g.DepthBelow root d p ∧ ∀ c ∈ next, g.parent? c = some p)
    (h : afterEntering root id depth ⟨some p, count, next⟩ g = .ok t k) : t.DepthCorrect k := by
  generalize hrun : EStateM.Result.ok t k = run at h
  cases afterEntry h with
  | kept hp => exact depthCorrect_below hg (hkept hp) hrun.symm
  | replaced hx => exact depthCorrect_below hg (hreplaced _ hx) hrun.symm
  | ended =>
    cases hrun
    trivial
  | removed hne hq hoff =>
    obtain ⟨d, rfl, hway, hnext⟩ := hremoved hne (parent?_of_parent hq ▸ hoff)
    rw [past_succ] at hrun
    cases hrun
    exact depthCorrect_among hway hnext
  | failed => cases hrun

theorem DepthCorrect.enter (hf : f.WellFormed) (hg : g.WellFormed) (hl : f.DepthBelow root depth id)
    (hnote : note id f = .ok n k) (hs : KeepsLineage ⟨root, .entering id depth⟩ f g)
    {k' : Forest} (h : afterEntering root id depth n g = .ok t k') : t.DepthCorrect k' := by
  rcases note_cases hf id with ⟨hp, he⟩ | ⟨p, pre, post, hp, he⟩ | he
  · -- a node without a parent can only be the root
    cases he.symm.trans hnote
    obtain rfl : id = root := by
      by_contra hne
      obtain ⟨p, _, hq, _⟩ := hl.cases_of_ne hne
      cases hp.symm.trans hq
    obtain rfl := hl.eq_zero hf
    exact depthCorrect_below hg .top h
  · cases he.symm.trans hnote
    have hpar : f.parent? id = some p := hf.mem_iff.mp (by simp [hp])
    by_cases hroot : id = root
    · subst hroot
      obtain rfl := hl.eq_zero hf
      refine depthCorrect_afterEntering hg (fun _ => .top) (fun x _ => ?_) (absurd rfl) h
      rw [if_pos rfl]
      exact .top
    · obtain ⟨q, d, hq, rfl, hbelow⟩ := hl.cases_of_ne hroot
      cases hpar.symm.trans hq
      obtain ⟨hstay, hnext⟩ := hs
      have hway : g.DepthBelow root d p := by
        refine hbelow.stays hf fun y hy htop hyp => hstay y hy htop (hyp.of_parent hpar) ?_
        rintro rfl
        exact hf.acyclic.not_above_parent hpar hyp
      refine depthCorrect_afterEntering hg (.down · hway) (fun x hx => ?_)
        (fun _ hoff => ⟨d, rfl, hway, fun c hc => ?_⟩) h
      · rw [if_neg hroot]
        exact .down (hg.mem_iff.mp hx) hway
      · obtain ⟨rest, rfl⟩ : ∃ rest, post = c :: rest := List.head?_eq_some_iff.mp hc
        exact hnext hroot (hpar ▸ hoff) p pre c rest hp
  · cases he.symm.trans hnote

theorem DepthCorrect.leave (hf : f.WellFormed) (hg : g.WellFormed) (hl : f.DepthBelow root depth id)
    (hs : KeepsLineage ⟨root, .leaving id depth⟩ f g) (h : afterLeaving root id depth g = .ok t k) :
    t.DepthCorrect k := by
  by_cases hroot : id = root
  · subst hroot
    rw [afterLeaving_top] at h
    cases h
    trivial
  · obtain ⟨p, d, hp, rfl, hway⟩ := (hl.stays hf hs).cases_of_ne hroot
    obtain ⟨pre, post, hsplit⟩ := List.append_of_mem (hg.mem_iff.mpr hp)
    rw [afterLeaving_child hg hroot hsplit] at h
    cases h
    refine depthCorrect_among (hway.stays hg fun y _ _ _ => parent?_settle) fun c hc => ?_
    obtain ⟨rest, rfl⟩ : ∃ rest, post = c :: rest := List.head?_eq_some_iff.mp hc
    rw [parent?_settle]
    exact hg.mem_iff.mp (by simp [hsplit])

variable {s : σ}

theorem VisitorCall.wellFormed (hg : ∀ e, (guide e).Safe) (h : VisitorCall guide t r r')
    (hf : r.1.WellFormed) : r'.1.WellFormed := by
  cases h with
  | @enter _ id depth n f g s _ hnote hcall =>
    have hk : g.WellFormed := after_ok hnote ▸ safe_note hf
    have hafter := hg (.enter id depth) s hk
    rwa [Guided.after, hcall] at hafter
  | @leave _ id depth r r' hcall =>
    have hafter := hg (.leave id depth) r.2 hf
    rwa [Guided.after, hcall] at hafter

theorem StepsTo.depthCorrect {a b : Tour × Forest × σ} (hg : ∀ e, (guide e).Safe)
    (h : StepsTo guide a b) (hf : a.2.1.WellFormed) (hl : a.1.DepthCorrect a.2.1) :
    b.1.DepthCorrect b.2.1 ∨ ∃ r, VisitorCall guide a.1 a.2 r ∧ ¬ a.1.KeepsLineage a.2.1 r.1 := by
  obtain ⟨⟨root, stage⟩, f, s⟩ := a
  obtain ⟨u, r'⟩ := b
  obtain ⟨hmore, hstep⟩ := h
  cases stage with
  | entering id depth =>
    obtain ⟨n, r₁, hnote, hstep⟩ := ok_of_bind hstep
    obtain ⟨_, r₂, hcall, hafter⟩ := ok_of_bind hstep
    obtain ⟨k, hk, rfl⟩ := Guided.ok_of_edit hnote
    obtain ⟨k', hafter, rfl⟩ := Guided.ok_of_edit hafter
    have hcalls : VisitorCall guide ⟨root, .entering id depth⟩ (f, s) r₂ := .enter hk hcall
    by_cases hs : KeepsLineage ⟨root, .entering id depth⟩ f r₂.1
    · exact .inl (DepthCorrect.enter hf (hcalls.wellFormed hg hf) hl hk hs hafter)
    · exact .inr ⟨r₂, hcalls, hs⟩
  | leaving id depth =>
    obtain ⟨_, r₂, hcall, hafter⟩ := ok_of_bind hstep
    obtain ⟨k', hafter, rfl⟩ := Guided.ok_of_edit hafter
    have hcalls : VisitorCall guide ⟨root, .leaving id depth⟩ (f, s) r₂ := .leave hcall
    by_cases hs : KeepsLineage ⟨root, .leaving id depth⟩ f r₂.1
    · exact .inl (DepthCorrect.leave hf (hcalls.wellFormed hg hf) hl hs hafter)
    · exact .inr ⟨r₂, hcalls, hs⟩
  | finished => exact absurd rfl hmore

theorem RunsTo.depthCorrect {a b : Tour × Forest × σ} (hg : ∀ e, (guide e).Safe)
    (h : RunsTo guide a b)
    (hf : a.2.1.WellFormed) (hl : a.1.DepthCorrect a.2.1) :
    b.1.DepthCorrect b.2.1 ∨ ∃ u r q, RunsTo guide a (u, r) ∧
      Relation.TransGen (StepsTo guide) (u, r) b ∧ u.DepthCorrect r.1 ∧ VisitorCall guide u r q ∧
      ¬ u.KeepsLineage r.1 q.1 := by
  induction h with
  | refl => exact .inl hl
  | @tail b c hab hbc ih =>
    rcases ih with hb | ⟨u, r, q, hu, hub, hrest⟩
    · rcases hbc.depthCorrect hg (RunsTo.wellFormed hg hab hf) hb with hc | ⟨q, hcall, hmoved⟩
      · exact .inl hc
      · exact .inr ⟨b.1, b.2, q, hab, .single hbc, hb, hcall, hmoved⟩
    · exact .inr ⟨u, r, q, hu, hub.tail hbc, hrest⟩

theorem DetachesLast.depth_pos (h : DetachesLast guide t r id p depth r')
    (hl : t.DepthCorrect r.1) : 1 ≤ depth := by
  have hbelow : r.1.DepthBelow t.root depth id := by
    rw [DepthCorrect, h.stage] at hl
    exact hl
  obtain ⟨_, d, _, rfl, _⟩ := hbelow.cases_of_ne h.inner
  exact Nat.le_add_left 1 d

theorem step_of_detachesLast (hf : r.1.WellFormed) : DetachesLast guide t r id p depth r' →
    step guide t r = match depth with
      | 0 => .error (.unmet (.strayed id)) r'
      | d + 1 => .ok ⟨t.root, .leaving p d⟩ r' := by
  rintro ⟨hstage, hne, hlast, hcall, ⟨q, hq, hoff⟩, m, hm, hfewer⟩
  obtain ⟨root, stage⟩ := t
  dsimp only at hstage
  subst hstage
  obtain ⟨pre, hp⟩ := List.getLast?_eq_some_iff.mp hlast
  cases hcall with
  | @enter _ _ _ n f k s r' hnote hcall =>
    obtain ⟨g, s'⟩ := r'
    cases (note_child hf hp).symm.trans hnote
    show ((note id).guided >>= fun n => _) (f, s) = _
    rw [bind_ok (Guided.of_edit hnote), bind_ok hcall]
    show (afterEntering root id depth ⟨some p, (f.childIds p).length, none⟩).guided (g, s') = _
    rw [Edit.guided, afterEntering_past hne hq hoff hm hfewer]
    cases depth <;> rfl

theorem not_strayed_below : below root id depth g ≠ .error (.unmet (.strayed x)) k := by
  intro h
  rcases below_cases with hb | hb <;> cases hb.symm.trans h

theorem strayed_afterEntering {next : Option NodeId} {count : Nat}
    (h : afterEntering root id depth ⟨some p, count, next⟩ g = .error (.unmet (.strayed x)) k) :
    k = g ∧ x = id ∧ depth = 0 ∧ next = none ∧ id ≠ root ∧
      (∃ q, g.parent id = .ok q ∧ q ≠ some p) ∧ ∃ m, g.childCount p = .ok m ∧ m ≠ count := by
  generalize hrun : EStateM.Result.error (TreeError.unmet (.strayed x)) k = run at h
  cases afterEntry h with
  | kept => exact absurd hrun.symm not_strayed_below
  | replaced => exact absurd hrun.symm not_strayed_below
  | ended => cases hrun
  | removed hne hq hoff hm hfewer =>
    cases next with
    | some c => cases hrun
    | none =>
      cases depth with
      | zero =>
        cases hrun
        exact ⟨rfl, rfl, rfl, rfl, hne, ⟨_, hq, hoff⟩, _, hm, hfewer⟩
      | succ d => cases hrun
  | failed hy =>
    cases hrun
    exact absurd rfl (hy x)

theorem detachesLast_of_strayed (hg : ∀ e, (guide e).Safe) (hf : r.1.WellFormed)
    (h : step guide t r = .error (.unmet (.strayed x)) r') :
    (∃ e q, guide e q = .error (.unmet (.strayed x)) r') ∨
        ∃ p, DetachesLast guide t r x p 0 r' := by
  obtain ⟨root, stage⟩ := t
  obtain ⟨f, s⟩ := r
  cases stage with
  | entering id depth =>
    rcases error_of_bind h with hnote | ⟨n, r₁, hnote, hrest⟩
    · obtain ⟨k, hk, _⟩ := Guided.error_of_edit hnote
      rcases note_cases hf id with ⟨_, he⟩ | ⟨_, _, _, _, he⟩ | he <;> cases he.symm.trans hk
    obtain ⟨k, hk, rfl⟩ := Guided.ok_of_edit hnote
    rcases error_of_bind hrest with hcall | ⟨_, ⟨g, s'⟩, hcall, hafter⟩
    · exact .inl ⟨_, _, hcall⟩
    obtain ⟨k', hstray, rfl⟩ := Guided.error_of_edit hafter
    rcases note_cases hf id with ⟨_, he⟩ | ⟨p, pre, post, hp, he⟩ | he
    · cases he.symm.trans hk
      exact absurd hstray not_strayed_below
    · cases he.symm.trans hk
      obtain ⟨rfl, rfl, rfl, hlast, hne, hoff, hfewer⟩ := strayed_afterEntering hstray
      obtain rfl := List.head?_eq_none_iff.mp hlast
      exact .inr ⟨p, rfl, hne, List.getLast?_eq_some_iff.mpr ⟨pre, hp⟩, .enter hk hcall, hoff,
        hfewer⟩
    · cases he.symm.trans hk
  | leaving id depth =>
    rcases error_of_bind h with hcall | ⟨_, ⟨g, s'⟩, hcall, hafter⟩
    · exact .inl ⟨_, _, hcall⟩
    obtain ⟨k, hstray, rfl⟩ := Guided.error_of_edit hafter
    have hcalls : VisitorCall guide ⟨root, .leaving id depth⟩ (f, s) (g, s') := .leave hcall
    cases error_of_afterLeaving (hcalls.wellFormed hg hf) hstray
  | finished => cases h

end Tour

open Tour

theorem tours_stray_from_moved_ways {guide : Guide σ} (h : Reachable f)
    (hg : ∀ e k s, Reaches k ((guide e).after k s)) (root : NodeId) (s : σ) :
    (∀ t r id p depth r', RunsTo guide (start root, f, s) (t, r) →
      DetachesLast guide t r id p depth r' →
      (step guide t r = match depth with
        | 0 => .error (.unmet (.strayed id)) r'
        | d + 1 => .ok ⟨t.root, .leaving p d⟩ r') ∧
      (1 ≤ depth ∨ ∃ u q k, RunsTo guide (start root, f, s) (u, q) ∧
        Relation.TransGen (StepsTo guide) (u, q) (t, r) ∧ u.DepthCorrect q.1 ∧
          VisitorCall guide u q k ∧
        ¬ u.KeepsLineage q.1 k.1)) ∧
    ∀ limit id r', tour limit guide root (f, s) = .error (.unmet (.strayed id)) r' →
      (∃ e q, guide e q = .error (.unmet (.strayed id)) r') ∨
      ∃ t r p, RunsTo guide (start root, f, s) (t, r) ∧ DetachesLast guide t r id p 0 r' := by
  have hf := h.wellFormed
  have hsafe : ∀ e, (guide e).Safe := fun e k s hk => (hg e k s).wellFormed hk
  refine ⟨fun t r id p depth r' hruns hdrop => ⟨?_, ?_⟩, fun limit id r' hrun => ?_⟩
  · exact step_of_detachesLast (RunsTo.wellFormed hsafe hruns hf) hdrop
  · rcases RunsTo.depthCorrect hsafe hruns hf DepthBelow.top with hl | hmoved
    · exact .inl (hdrop.depth_pos hl)
    · exact .inr hmoved
  · obtain ⟨t, r, hruns, hstep⟩ := error_of_run hrun
    exact (detachesLast_of_strayed hsafe (RunsTo.wellFormed hsafe hruns hf) hstep).imp_right
      fun ⟨p, hdrop⟩ => ⟨t, r, p, hruns, hdrop⟩

def threeItems : Forest :=
  runAll Url.resolve (readFragment .html)
    [.createElement "ul", .createElement "li", .createElement "li", .createElement "li",
      .restructure (.appendChildren 0 [1, 2, 3])] .empty

def moveThenRemove : Guide Unit
  | .leave 1 _ => (appendChild 2 1).guided
  | .enter 3 _ => (remove 3).guided
  | _ => return ()

theorem reaches_moveThenRemove (e : Event) (k : Forest) (s : Unit) :
    Reaches k ((moveThenRemove e).after k s) := by
  unfold moveThenRemove
  split
  · have h : Reaches k ((appendChild 2 1).silently.after k) :=
      reaches_operation Url.resolve .html (.restructure (.appendChild 2 1))
    rwa [after_guided, ← after_map]
  · have h : Reaches k ((remove 3).silently.after k) :=
      reaches_operation Url.resolve .html (.restructure (.remove 3))
    rwa [after_guided, ← after_map]
  · exact .refl k

def afterMove : Forest := (run moveThenRemove 4 (start 0)).after threeItems ()

theorem tours_stray_from_moved_ways_threeItems :
    Reachable threeItems ∧ (∀ e k s, Reaches k ((moveThenRemove e).after k s)) ∧
      ∃ r, RunsTo moveThenRemove (start 0, threeItems, ()) (⟨0, .entering 3 0⟩, afterMove, ()) ∧
        DetachesLast moveThenRemove ⟨0, .entering 3 0⟩ (afterMove, ()) 3 0 0 r ∧
        tour 5 moveThenRemove 0 (threeItems, ()) = .error (.unmet (.strayed 3)) r ∧
        step moveThenRemove ⟨0, .entering 3 0⟩ (afterMove, ()) = .error (.unmet (.strayed 3)) r ∧
        ∃ u q k, RunsTo moveThenRemove (start 0, threeItems, ()) (u, q) ∧ u.DepthCorrect q.1 ∧
          VisitorCall moveThenRemove u q k ∧ ¬ u.KeepsLineage q.1 k.1 := by
  have h : Reachable threeItems := reaches_runAll _
  have hrun : run moveThenRemove 4 (start 0) (threeItems, ()) = .ok ⟨0, .entering 3 0⟩
      (afterMove, ()) := rfl
  have hruns := runsTo_of_run hrun
  have hdrop : DetachesLast moveThenRemove ⟨0, .entering 3 0⟩ (afterMove, ()) 3 0 0
      ((run moveThenRemove 5 (start 0)).after threeItems (), ()) :=
    ⟨rfl, by decide, rfl, .enter (n := ⟨some 0, 2, none⟩) rfl rfl, ⟨none, rfl, by decide⟩,
      1, rfl, by decide⟩
  obtain ⟨hstep, hmoved⟩ :=
    (tours_stray_from_moved_ways h reaches_moveThenRemove 0 ()).1 _ _ 3 0 0 _ hruns hdrop
  obtain ⟨u, q, k, hu, _, hl, hcall, hlost⟩ := hmoved.resolve_left (by decide)
  exact ⟨h, reaches_moveThenRemove, _, hruns, hdrop, rfl, hstep, u, q, k, hu, hl, hcall, hlost⟩

end MarkupForest
