import MarkupForest.Forest.Tour
import MarkupForest.Proofs.SiblingIndex.Cache
import MarkupForest.Proofs.Tour.Visits

namespace MarkupForest

open Edit Forest

def recording (act : NodeId → Edit Unit) : Guide (List Event) := fun e => do
  modify fun (f, es) => (f, es ++ [e])
  match e with
  | .enter id _ => (act id).guided
  | .leave _ _ => return ()

def Fate.work (id : NodeId) : Fate → Edit Unit
  | .keep => return ()
  | .remove => MarkupForest.remove id
  | .replace r => replaceWith id r

def Fate.Observed (f g : Forest) (c : NodeId) : Fate → Prop
  | .keep => g.parent? c = f.parent? c
  | .remove => ∃ p, f.parent? c = some p ∧ g.parent? c ≠ some p ∧
      (g.childIds p).length ≠ (f.childIds p).length
  | .replace r => ∃ p i, f.parent? c = some p ∧ g.parent? c ≠ some p ∧
      (g.childIds p).length = (f.childIds p).length ∧ g.index? c = some i ∧
      (g.childIds p)[i]? = some r

def stand (plan : NodeId → Fate) (es : List NodeId) (c : NodeId) : Option NodeId :=
  if c ∈ es then (plan c).heir c else some c

/-- `Left es g` says that work on the nodes `es` may leave `g`. -/
structure Realizes (f : Forest) (kids : NodeId → List NodeId) (plan : NodeId → Fate) (top : NodeId)
    (act : NodeId → Edit Unit) (Left : List NodeId → Forest → Prop) : Prop where
  wellFormed : ∀ {es g}, Left es g → g.WellFormed
  size : ∀ {es g}, Left es g → g.size = f.size
  settle : ∀ {es g} p, Left es g → Left es (g.settle p)
  first : ∀ {es g s}, Left es g → (∀ c ∈ kids s, c ∉ es) → (g.childIds s).head? = (kids s).head?
  row : ∀ {es g s done c rest x}, Left es g → kids s = done ++ c :: rest → (∀ y ∈ done, y ∈ es) →
    (∀ y ∈ rest, y ∉ es) → stand plan es c = some x →
    ∃ pre post, g.childIds s = pre ++ x :: post ∧ post.head? = rest.head?
  act : ∀ {es g c way}, Left es g → VisitPath kids plan top c way → (∀ m ∈ way, m ∈ es) → c ∉ es →
    (∀ p, g.parent? c = some p → g.index? c = some ((g.childIds p).idxOf c)) →
    ∃ k, act c g = .ok () k ∧ Left (es ++ [c]) k ∧ (plan c).Observed g k c

variable {σ : Type} {f g k : Forest} {c p q s n m top x : NodeId}

section Recording

variable {act : NodeId → Edit Unit} {log : List Event} {depth : Nat}

theorem recording_enter (h : act c f = .ok () g) :
    recording act (.enter c depth) (f, log) = .ok () (g, log ++ [.enter c depth]) :=
  Guided.of_edit h

theorem recording_leave :
    recording act (.leave c depth) (f, log) = .ok () (f, log ++ [.leave c depth]) :=
  rfl

end Recording

namespace Tour

variable {root : NodeId} {depth : Nat} {pre post : List NodeId}

def StepsTo (guide : Guide σ) (a b : Tour × Forest × σ) : Prop :=
  a.1.stage ≠ .finished ∧ step guide a.1 a.2 = .ok b.1 b.2

def RunsTo (guide : Guide σ) : Tour × Forest × σ → Tour × Forest × σ → Prop :=
  Relation.ReflTransGen (StepsTo guide)

theorem run_finished {guide : Guide σ} {limit : Nat} {t : Tour} {r : Forest × σ}
    (h : t.stage = .finished) : run guide limit t r = .ok t r := by
  cases limit with
  | zero => rfl
  | succ n =>
    rw [run, h]
    rfl

theorem run_eq {guide : Guide σ} {limit : Nat} {t : Tour} {r : Forest × σ}
    (h : t.stage ≠ .finished) :
    run guide (limit + 1) t r = (step guide t >>= run guide limit) r := by
  rw [run]
  cases ht : t.stage with
  | finished => exact absurd ht h
  | entering => rfl
  | leaving => rfl

theorem run_succ {guide : Guide σ} {limit : Nat} {t u : Tour} {r r' : Forest × σ}
    (h : t.stage ≠ .finished) (hs : step guide t r = .ok u r') :
    run guide (limit + 1) t r = run guide limit u r' := by
  rw [run_eq h, bind_ok hs]

theorem RunsTo.run {guide : Guide σ} {a b : Tour × Forest × σ} (h : RunsTo guide a b)
    (hb : b.1.stage = .finished) :
    ∃ n, ∀ limit ≥ n, Tour.run guide limit a.1 a.2 = .ok b.1 b.2 := by
  induction h using Relation.ReflTransGen.head_induction_on with
  | refl => exact ⟨0, fun limit _ => run_finished hb⟩
  | head hp _ ih =>
    obtain ⟨n, hn⟩ := ih
    refine ⟨n + 1, fun limit hl => ?_⟩
    obtain ⟨k, rfl⟩ := Nat.exists_eq_add_of_le' hl
    rw [← Nat.add_assoc, run_succ hp.1 hp.2]
    exact hn _ (Nat.le_add_left n k)

theorem error_of_run {guide : Guide σ} {limit : Nat} {t : Tour} {r r' : Forest × σ} {y : TreeError}
    (h : run guide limit t r = .error y r') :
    ∃ u q, RunsTo guide (t, r) (u, q) ∧ step guide u q = .error y r' := by
  induction limit generalizing t r with
  | zero => cases h
  | succ n ih =>
    have hmore : t.stage ≠ .finished := by
      intro hfin
      rw [run_finished hfin] at h
      cases h
    rw [run_eq hmore] at h
    rcases error_of_bind h with h | ⟨u, q, hstep, h⟩
    · exact ⟨t, r, .refl, h⟩
    · obtain ⟨v, q', hruns, hv⟩ := ih h
      exact ⟨v, q', .head ⟨hmore, hstep⟩ hruns, hv⟩

theorem runsTo_of_run {guide : Guide σ} {limit : Nat} {t u : Tour} {r r' : Forest × σ}
    (h : run guide limit t r = .ok u r') :
    RunsTo guide (t, r) (u, r') := by
  induction limit generalizing t r with
  | zero =>
    cases h
    exact .refl
  | succ n ih =>
    by_cases hfin : t.stage = .finished
    · rw [run_finished hfin] at h
      cases h
      exact .refl
    · rw [run_eq hfin] at h
      obtain ⟨v, q, hstep, h⟩ := ok_of_bind h
      exact .head ⟨hfin, hstep⟩ (ih h)

theorem StepsTo.wellFormed {guide : Guide σ} {a b : Tour × Forest × σ} (hg : ∀ e, (guide e).Safe)
    (h : StepsTo guide a b) (hf : a.2.1.WellFormed) : b.2.1.WellFormed := by
  have hafter := safe_step hg a.1 a.2.2 hf
  rwa [Guided.after, h.2] at hafter

theorem RunsTo.wellFormed {guide : Guide σ} {a b : Tour × Forest × σ} (hg : ∀ e, (guide e).Safe)
    (h : RunsTo guide a b) (hf : a.2.1.WellFormed) : b.2.1.WellFormed := by
  induction h with
  | refl => exact hf
  | tail _ hp ih => exact hp.wellFormed hg ih

def among (root s : NodeId) (depth : Nat) (first : Option NodeId) : Tour :=
  ⟨root, match first with
    | some c => .entering c (depth + 1)
    | none => .leaving s depth⟩

theorem below_eq (hs : s < f.size) :
    below root s depth f = .ok (among root s depth (f.childIds s).head?) f := by
  have hfirst : f.firstChild s = .ok (f.childIds s).head? := by
    simp [firstChild, children_of_lt hs, bind, Except.bind, pure, Except.pure]
  rw [below, bind_ok (ask_ok hfirst)]
  cases (f.childIds s).head? <;> rfl

theorem next_eq (hf : f.WellFormed) (hp : f.childIds p = pre ++ c :: post) :
    nextSibling c f = .ok post.head? (f.settle p) := by
  have hc : f.parent? c = some p := hf.mem_iff.mp (by simp [hp])
  have hpre : c ∉ pre := fun h => by
    have hnd := hf.nodup p
    rw [hp] at hnd
    exact (List.nodup_append.mp hnd).2.2 c h c List.mem_cons_self rfl
  rw [nextSibling_eq, lookBeside_child hf hc, childIds_settle, hp, List.idxOf_append_of_notMem hpre,
    List.idxOf_cons_self, List.getElem?_append_right (by omega)]
  cases post <;> simp

theorem note_child (hf : f.WellFormed) (hp : f.childIds p = pre ++ c :: post) :
    note c f = .ok ⟨some p, (f.childIds p).length, post.head?⟩ (f.settle p) := by
  have hc : f.parent? c = some p := hf.mem_iff.mp (by simp [hp])
  rw [note, bind_ok (ask_ok (parent_of_lt (lt_of_parent? hc))), hc]
  show ((ask (·.childCount p)) >>= fun siblings => _) f = _
  rw [bind_ok (ask_ok (childCount_of_lt (hf.parent_lt hc))), bind_ok (next_eq hf hp), pure_eq]

theorem note_root (hc : c < f.size) (hp : f.parent? c = none) :
    note c f = .ok ⟨none, 0, none⟩ f := by
  have hnext : nextSibling c f = .ok none f := by rw [nextSibling_eq, lookBeside_root hc hp]
  rw [note, bind_ok (ask_ok (parent_of_lt hc)), hp]
  show (nextSibling c >>= fun next => _) f = _
  rw [bind_ok hnext, pure_eq]

theorem afterEntering_root {count : Nat} {next : Option NodeId} :
    afterEntering root c depth ⟨none, count, next⟩ = below root c depth :=
  rfl

variable {next : Option NodeId}

theorem afterEntering_kept (hc : g.parent? c = some p) :
    afterEntering root c depth ⟨some p, n, next⟩ g = below root c depth g := by
  show (ask (·.parent c) >>= fun q => _) g = _
  rw [bind_ok (ask_ok (parent_of_lt (lt_of_parent? hc))), if_pos hc]

theorem afterEntering_replaced {i : Nat} (hp : p < g.size) (hc : g.parent? c ≠ some p)
    (hi : g.index? c = some i) (hx : (g.childIds p)[i]? = some x) :
    afterEntering root c depth ⟨some p, (g.childIds p).length, next⟩ g =
      below (if c = root then x else root) x depth g := by
  have hlt : c < g.size := by
    by_contra hge
    simp [index?, get?_of_size_le (Nat.le_of_not_lt hge)] at hi
  obtain ⟨m, hfind, hm⟩ := index?_of_lt hlt
  cases hi.symm.trans hm
  have hchild : g.child p m.index = .ok x := by
    simp [child, children_of_lt hp, hx, bind, Except.bind, pure, Except.pure]
  show (ask (·.parent c) >>= fun q => _) g = _
  rw [bind_ok (ask_ok (parent_of_lt hlt)), if_neg hc, bind_ok (ask_ok (childCount_of_lt hp)),
    if_pos rfl, bind_ok (ask_ok hfind), bind_ok (ask_ok hchild)]

theorem afterEntering_top_removed {count : Nat} (hlt : c < g.size) (hp : p < g.size)
    (hc : g.parent? c ≠ some p) (hn : (g.childIds p).length ≠ count) :
    afterEntering c c depth ⟨some p, count, next⟩ g = .ok ⟨c, .finished⟩ g := by
  show (ask (·.parent c) >>= fun q => _) g = _
  rw [bind_ok (ask_ok (parent_of_lt hlt)), if_neg hc, bind_ok (ask_ok (childCount_of_lt hp)),
    if_neg hn, if_pos rfl]
  rfl

def past (root id p : NodeId) : Option NodeId → Nat → Edit Tour
  | some c, depth => return ⟨root, .entering c depth⟩
  | none, d + 1 => return ⟨root, .leaving p d⟩
  | none, 0 => throw (.unmet (.strayed id))

theorem afterEntering_past {count m : Nat} {q : Option NodeId} (hne : c ≠ root)
    (hq : g.parent c = .ok q) (hoff : q ≠ some p) (hm : g.childCount p = .ok m)
    (hfewer : m ≠ count) :
    afterEntering root c depth ⟨some p, count, next⟩ g = past root c p next depth g := by
  show (ask (·.parent c) >>= fun q => _) g = _
  rw [bind_ok (ask_ok hq), if_neg hoff, bind_ok (ask_ok hm), if_neg hfewer, if_neg hne]
  cases next with
  | some c => rfl
  | none => cases depth <;> rfl

theorem past_succ : past root c p next (depth + 1) g = .ok (among root p depth next) g := by
  cases next <;> rfl

theorem afterEntering_removed {count : Nat} (hne : c ≠ root) (hlt : c < g.size) (hp : p < g.size)
    (hc : g.parent? c ≠ some p) (hn : (g.childIds p).length ≠ count) :
    afterEntering root c (depth + 1) ⟨some p, count, next⟩ g = .ok (among root p depth next) g := by
  rw [afterEntering_past hne (parent_of_lt hlt) hc (childCount_of_lt hp) hn, past_succ]

theorem afterLeaving_top : afterLeaving root root depth g = .ok ⟨root, .finished⟩ g := by
  rw [afterLeaving, if_pos rfl]
  rfl

theorem afterLeaving_child (hg : g.WellFormed) (hne : c ≠ root)
    (hp : g.childIds p = pre ++ c :: post) :
    afterLeaving root c (depth + 1) g = .ok (among root p depth post.head?) (g.settle p) := by
  have hc : g.parent? c = some p := hg.mem_iff.mp (by simp [hp])
  rw [afterLeaving, if_neg hne, bind_ok (next_eq hg hp)]
  cases post.head? with
  | some next => rfl
  | none =>
    have hs : (g.settle p).parent? c = some p := by rw [parent?_settle, hc]
    show (ask (·.parent c) >>= fun q => _) (g.settle p) = _
    rw [bind_ok (ask_ok (parent_of_lt (lt_of_parent? hs))), hs]
    rfl

variable {act : NodeId → Edit Unit} {log : List Event}

theorem step_entering {t : Tour} {note' : Note} (hnote : note c f = .ok note' g)
    (hact : act c g = .ok () k) (hafter : afterEntering root c depth note' k = .ok t k) :
    StepsTo (recording act) (⟨root, .entering c depth⟩, f, log)
        (t, k, log ++ [.enter c depth]) := by
  refine ⟨by simp, ?_⟩
  show ((note c).guided >>= fun n => _) (f, log) = _
  rw [bind_ok (Guided.of_edit hnote), bind_ok (recording_enter hact)]
  exact Guided.of_edit hafter

theorem step_leaving {t : Tour} (hafter : afterLeaving root c depth f = .ok t g) :
    StepsTo (recording act) (⟨root, .leaving c depth⟩, f, log) (t, g, log ++ [.leave c depth]) := by
  refine ⟨by simp, ?_⟩
  show (recording act (.leave c depth) >>= fun _ => _) (f, log) = _
  rw [bind_ok recording_leave]
  exact Guided.of_edit hafter

end Tour

namespace Realizes

open Tour

variable {kids : NodeId → List NodeId} {plan : NodeId → Fate} {act : NodeId → Edit Unit}
  {Left : List NodeId → Forest → Prop} {root : NodeId} {depth : Nat} {way es : List NodeId}
  {log : List Event}

variable (h : Realizes f kids plan top act Left) (hf : f.WellFormed)
    (hs : Admissible f kids plan top)
include h

theorem act_child (hg : Left es g) (hw : VisitPath kids plan top c way) (hway : ∀ m ∈ way, m ∈ es)
    (hc : c ∉ es) (hp : g.parent? c = some p) :
    ∃ k, act c (g.settle p) = .ok () k ∧ Left (es ++ [c]) k ∧ (plan c).Observed g k c := by
  have hwf := h.wellFormed hg
  obtain ⟨k, hk, hleft, hshown⟩ := h.act (h.settle p hg) hw hway hc fun q hq => by
    rw [parent?_settle, hp] at hq
    cases hq
    rw [childIds_settle]
    exact index?_settle hwf (List.getElem?_idxOf (hwf.mem_iff.mpr hp))
  refine ⟨k, hk, hleft, ?_⟩
  cases hplan : plan c with
  | keep => simpa [Fate.Observed, hplan, parent?_settle] using hshown
  | remove => simpa [Fate.Observed, hplan, parent?_settle, childIds_settle] using hshown
  | replace r => simpa [Fate.Observed, hplan, parent?_settle, childIds_settle] using hshown

theorem act_root (hg : Left es g) (hw : VisitPath kids plan top c way) (hway : ∀ m ∈ way, m ∈ es)
    (hc : c ∉ es) (hp : g.parent? c = none) :
    ∃ k, act c g = .ok () k ∧ Left (es ++ [c]) k ∧ plan c = .keep := by
  obtain ⟨k, hk, hleft, hshown⟩ := h.act hg hw hway hc fun q hq => by
    rw [hp] at hq
    cases hq
  refine ⟨k, hk, hleft, ?_⟩
  cases hplan : plan c with
  | keep => rfl
  | remove =>
    rw [hplan] at hshown
    obtain ⟨p, hq, _⟩ := hshown
    rw [hp] at hq
    cases hq
  | replace r =>
    rw [hplan] at hshown
    obtain ⟨p, i, hq, _⟩ := hshown
    rw [hp] at hq
    cases hq

include hf hs

theorem enter_stays (root : NodeId) (depth : Nat) (hg : Left (entered log) g)
    (hw : VisitPath kids plan top c way) (hway : ∀ m ∈ way, m ∈ entered log) (hc : c ∉ entered log)
    (hh : (plan c).heir c = some s) (hkids : ∀ y ∈ kids s, y ∉ entered log ++ [c]) :
    ∃ k, Left (entered log ++ [c]) k ∧
      StepsTo (recording act) (⟨root, .entering c depth⟩, g, log)
        (among (if c = root then s else root) s depth (kids s).head?, k,
          log ++ [.enter c depth]) := by
  have hwf := h.wellFormed hg
  have hclt := hs.way_lt hf hw
  have hslt := hs.heir_lt hf hw hh
  -- whatever took its place, its children are the ones planned
  have hbelow : ∀ k r, Left (entered log ++ [c]) k →
      below r s depth k = .ok (among r s depth (kids s).head?) k := by
    intro k r hk
    rw [below_eq (h.size hk ▸ hslt), h.first hk hkids]
  cases hp : g.parent? c with
  | none =>
    obtain ⟨k, hact, hleft, hkeep⟩ := h.act_root hg hw hway hc hp
    refine ⟨k, hleft, step_entering (note_root (h.size hg ▸ hclt) hp) hact ?_⟩
    obtain rfl : s = c := by simpa [Fate.heir, hkeep] using hh.symm
    rw [afterEntering_root, hbelow k root hleft]
    split
    · next he => rw [he]
    · rfl
  | some p =>
    obtain ⟨k, hact, hleft, hshown⟩ := h.act_child hg hw hway hc hp
    obtain ⟨pre, post, hsplit⟩ := List.append_of_mem (hwf.mem_iff.mpr hp)
    refine ⟨k, hleft, step_entering (note_child hwf hsplit) hact ?_⟩
    rcases Fate.heir_eq_some hh with ⟨hkeep, rfl⟩ | hr
    · rw [hkeep] at hshown
      rw [afterEntering_kept (hshown.trans hp), hbelow k root hleft]
      split
      · next he => rw [he]
      · rfl
    · rw [hr] at hshown
      obtain ⟨q, i, hq, hlost, hcount, hi, hx⟩ := hshown
      cases hp.symm.trans hq
      have hplt : p < k.size := by
        rw [h.size hleft, ← h.size hg]
        exact hwf.parent_lt hp
      rw [← hcount, afterEntering_replaced hplt hlost hi hx, hbelow k _ hleft]

theorem enter_gone {pre post : List NodeId} (root : NodeId) (depth : Nat)
    (hg : Left (entered log) g) (hw : VisitPath kids plan top c way)
    (hway : ∀ m ∈ way, m ∈ entered log) (hc : c ∉ entered log) (hremove : plan c = .remove)
    (hp : g.childIds p = pre ++ c :: post) :
    ∃ k, Left (entered log ++ [c]) k ∧
      (c ≠ root → StepsTo (recording act) (⟨root, .entering c (depth + 1)⟩, g, log)
        (among root p depth post.head?, k, log ++ [.enter c (depth + 1)])) ∧
      StepsTo (recording act) (⟨c, .entering c depth⟩, g, log)
        (⟨c, .finished⟩, k, log ++ [.enter c depth]) := by
  have hwf := h.wellFormed hg
  have hpar : g.parent? c = some p := hwf.mem_iff.mp (by simp [hp])
  obtain ⟨k, hact, hleft, hshown⟩ := h.act_child hg hw hway hc hpar
  rw [hremove] at hshown
  obtain ⟨q, hq, hlost, hcount⟩ := hshown
  cases hpar.symm.trans hq
  have hplt : p < k.size := by
    rw [h.size hleft, ← h.size hg]
    exact hwf.parent_lt hpar
  have hclt : c < k.size := h.size hleft ▸ hs.way_lt hf hw
  exact ⟨k, hleft,
    fun hne => step_entering (note_child hwf hp) hact
      (afterEntering_removed hne hclt hplt hlost hcount),
    step_entering (note_child hwf hp) hact (afterEntering_top_removed hclt hplt hlost hcount)⟩

omit hf hs in
theorem leave {done rest : List NodeId} (depth : Nat) (hg : Left (entered log) g)
    (hrow : kids p = done ++ c :: rest) (hdone : ∀ y ∈ done, y ∈ entered log)
    (hrest : ∀ y ∈ rest, y ∉ entered log) (hc : c ∈ entered log)
    (hh : (plan c).heir c = some s) (hne : s ≠ root) :
    ∃ k, Left (entered log) k ∧
      StepsTo (recording act) (⟨root, .leaving s (depth + 1)⟩, g, log)
        (among root p depth rest.head?, k, log ++ [.leave s (depth + 1)]) := by
  have hstand : stand plan (entered log) c = some s := by rw [stand, if_pos hc, hh]
  obtain ⟨pre, post, hp, hhead⟩ := h.row hg hrow hdone hrest hstand
  refine ⟨g.settle p, h.settle p hg, step_leaving ?_⟩
  rw [← hhead]
  exact afterLeaving_child (h.wellFormed hg) hne hp

omit h hf hs in
theorem new_of_nodup {A B C : List NodeId} (hnd : (A ++ n :: (B ++ C)).Nodup) :
    n ∉ A ∧ (∀ y ∈ B, y ∉ A ++ [n]) ∧ (∀ y ∈ C, y ∉ A ++ n :: B) ∧ (A ++ n :: B).Nodup := by
  have hnd' : (A ++ n :: B ++ C).Nodup := by simpa using hnd
  obtain ⟨hAB, _, hdisj⟩ := List.nodup_append.mp hnd'
  obtain ⟨_, hB, hdisj'⟩ := List.nodup_append.mp (show (A ++ [n] ++ B).Nodup by simpa using hAB)
  refine ⟨fun hn => ?_, fun y hy hx => hdisj' y hx y hy rfl, fun y hy hx => hdisj y hx y hy rfl,
    hAB⟩
  exact (List.nodup_append.mp hAB).2.2 n hn n List.mem_cons_self rfl

theorem runsTo_row {row : List NodeId} {events : List Event}
    (hv : Visits kids plan row depth events) (log : List Event) (done : List NodeId) {d : Nat}
    (hd : depth = d + 1) (hg : Left (entered log) g) (hw : VisitPath kids plan top m way)
    (hway : ∀ y ∈ m :: way, y ∈ entered log) (hh : (plan m).heir m = some s)
    (hroot : (plan top).heir top = some root) (hrow : kids s = done ++ row)
    (hdone : ∀ y ∈ done, y ∈ entered log) (hnd : (entered (log ++ events)).Nodup) :
    ∃ k, Left (entered (log ++ events)) k ∧
      RunsTo (recording act) (among root s d row.head?, g, log)
        (⟨root, .leaving s d⟩, k, log ++ events) := by
  -- by the visit; `done` are the siblings entered before, so that what is left of the row follows
  -- what stands for them
  induction hv generalizing g s m way d done log with
  | nil => exact ⟨g, by simpa using hg, by simpa using .refl⟩
  | @stays n t row depth below after ht hb ha ihb iha =>
    subst hd
    have hn : VisitPath kids plan top n (m :: way) := hw.step hh (by simp [hrow])
    have hdone' : ∀ y ∈ done ++ [n], y ∈ entered log ∨ y = n := fun y hy =>
      (List.mem_append.mp hy).imp (hdone y) List.mem_singleton.mp
    simp only [entered_append, entered_enter, entered_leave] at hnd
    obtain ⟨hnew, hbelow, hafter, hndb⟩ := new_of_nodup hnd
    obtain ⟨k₁, hk₁, henter⟩ := h.enter_stays hf hs root (d + 1) hg hn hway hnew ht
      fun y hy => hbelow y (hb.row_entered y hy)
    rw [if_neg (hs.ne_root hf hroot hn)] at henter
    have hway' : ∀ y ∈ n :: m :: way, y ∈ entered (log ++ [.enter n (d + 1)]) := fun y hy => by
      rcases List.mem_cons.mp hy with rfl | hy
      · simp
      · simp [hway y hy]
    obtain ⟨k₂, hk₂, hdown⟩ := ihb (log ++ [.enter n (d + 1)]) [] rfl (by simpa using hk₁)
      hn hway' ht rfl (by simp) (by simpa using hndb)
    obtain ⟨k₃, hk₃, hleave⟩ := h.leave d hk₂ hrow (fun y hy => by simp [hdone y hy])
      (fun y hy => by simpa using hafter y (ha.row_entered y hy)) (by simp) ht
      (hs.heir_ne_root hf hroot hn ht)
    obtain ⟨k₄, hk₄, hrest⟩ := iha (log ++ [.enter n (d + 1)] ++ below ++ [.leave t (d + 1)])
      (done ++ [n]) rfl (by simpa using hk₃) hw (fun y hy => by simp [hway y hy]) hh
      (by simpa using hrow) (fun y hy => by simpa using (hdone' y hy).imp_right .inl)
      (by simpa using hnd)
    refine ⟨k₄, by simpa using hk₄, ?_⟩
    have hall := (((Relation.ReflTransGen.single henter).trans hdown).tail hleave).trans hrest
    simpa [RunsTo, among] using hall
  | @gone n row depth after hgone ha iha =>
    subst hd
    have hn : VisitPath kids plan top n (m :: way) := hw.step hh (by simp [hrow])
    have hdone' : ∀ y ∈ done ++ [n], y ∈ entered log ∨ y = n := fun y hy =>
      (List.mem_append.mp hy).imp (hdone y) List.mem_singleton.mp
    simp only [entered_append, entered_enter] at hnd
    obtain ⟨hnew, _, hafter, _⟩ := new_of_nodup (B := []) (by simpa using hnd)
    obtain ⟨pre, post, hp, hhead⟩ := h.row hg hrow hdone
      (fun y hy => by simpa using fun hx => hafter y (ha.row_entered y hy) (by simp [hx]))
      (show stand plan (entered log) n = some n by rw [stand, if_neg hnew])
    obtain ⟨k₁, hk₁, henter, _⟩ := h.enter_gone hf hs root d hg hn hway hnew
      (Fate.heir_eq_none hgone) hp
    obtain ⟨k₂, hk₂, hrest⟩ := iha (log ++ [.enter n (d + 1)]) (done ++ [n]) rfl
      (by simpa using hk₁) hw (fun y hy => by simp [hway y hy]) hh (by simpa using hrow)
      (fun y hy => by simpa using hdone' y hy) (by simpa using hnd)
    refine ⟨k₂, by simpa using hk₂, ?_⟩
    have hall := hrest.head (hhead ▸ henter (hs.ne_root hf hroot hn))
    simpa [RunsTo, among] using hall

theorem tour (hleft : Left [] f) : ∃ es t k, Visits kids plan [top] 0 es ∧ Left (entered es) k ∧
    t.stage = .finished ∧
    ∃ n, ∀ limit ≥ n, MarkupForest.tour limit (recording act) top (f, []) = .ok t (k, es) := by
  obtain ⟨es, hv⟩ := hs.exists_visits hf 0
  have hnd := hs.nodup_entered hf hv (by simpa using VisitPath.top) (List.nodup_singleton top)
  suffices hleads : ∃ t k, Left (entered es) k ∧ t.stage = .finished ∧
      RunsTo (recording act) (Tour.start top, f, []) (t, k, es) by
    obtain ⟨t, k, hk, ht, hl⟩ := hleads
    exact ⟨es, t, k, hv, hk, ht, hl.run ht⟩
  cases hv with
  | @stays _ root _ _ below after hh hb ha =>
    cases ha
    obtain ⟨hnew, _⟩ := List.nodup_cons.mp (entered_enter ▸ hnd)
    obtain ⟨k₁, hk₁, henter⟩ := h.enter_stays hf hs top 0 (show Left (entered []) f from hleft)
      .top (by simp) (by simp) hh fun y hy => by
        have hy' : y ∈ entered below := hb.row_entered y hy
        rintro hx
        obtain rfl : y = top := by simpa using hx
        exact hnew (by simp [hy'])
    rw [if_pos rfl] at henter
    obtain ⟨k₂, hk₂, hdown⟩ := h.runsTo_row hf hs hb [.enter top 0] [] rfl hk₁ .top (by simp) hh hh
      rfl (by simp) (by simpa using hnd)
    have hleave : StepsTo (recording act) (⟨root, .leaving root 0⟩, k₂, [.enter top 0] ++ below)
        (⟨root, .finished⟩, k₂, [.enter top 0] ++ below ++ [.leave root 0]) :=
      step_leaving afterLeaving_top
    have hall := (Relation.ReflTransGen.single henter).trans (hdown.tail hleave)
    exact ⟨_, k₂, by simpa using hk₂, rfl, by simpa [RunsTo, Tour.start] using hall⟩
  | gone hh ha =>
    cases ha
    have hremove := Fate.heir_eq_none hh
    cases hp : f.parent? top with
    | none =>
      obtain ⟨_, _, _, hkeep⟩ := h.act_root hleft .top (by simp) (by simp) hp
      cases hremove.symm.trans hkeep
    | some p =>
      obtain ⟨pre, post, hsplit⟩ := List.append_of_mem (hf.mem_iff.mpr hp)
      obtain ⟨k, hk, _, henter⟩ := h.enter_gone hf hs top 0 (show Left (entered []) f from hleft)
        .top (by simp) (by simp) hremove hsplit
      exact ⟨_, k, hk, rfl, .single henter⟩

end Realizes

end MarkupForest
