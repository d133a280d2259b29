import MarkupForest.Proofs.Edit.InsertChildren
import MarkupForest.Proofs.Tour.Visits

namespace MarkupForest

open Forest

variable {σ : Type} {f : Forest} {r x : NodeId} {row : List NodeId} {depth : Nat} {e : Event}
  {es before after : List Event}

inductive RecursiveEvents (f : Forest) : List NodeId → Nat → List Event → Prop
  | nil {depth : Nat} : RecursiveEvents f [] depth []
  | node {n : NodeId} {row : List NodeId} {depth : Nat} {below after : List Event} :
      RecursiveEvents f (f.childIds n) (depth + 1) below → RecursiveEvents f row depth after →
        RecursiveEvents f (n :: row) depth (.enter n depth :: (below ++ .leave n depth :: after))

def Event.head? : Event → Option (NodeId × Nat)
  | .enter id depth => some (id, depth)
  | .leave _ _ => none

def heads (es : List Event) : List (NodeId × Nat) := es.filterMap Event.head?

def Visitor.logged (visit : Visitor σ) : Visitor (σ × List Event) := fun e (s, log) =>
  match visit e s with
  | .ok _ t => .ok () (t, log ++ [e])
  | .error x t => .error x (t, log ++ [e])

/-- The walk calls its visitor with these events in order, up to the first call that fails. -/
structure Forest.WalkCalls (f : Forest) (r : NodeId) (es : List Event) (visit : Visitor σ) (s : σ) :
    Prop where
  run : f.walk visit r s = es.forM visit s
  all : ∀ t, f.walk visit r s = .ok () t → f.walk visit.logged r (s, []) = .ok () (t, es)
  part : ∀ x t, f.walk visit r s = .error x t → ∃ before e after u, es = before ++ e :: after ∧
    before.forM visit s = .ok () u ∧ visit e u = .error x t ∧
      f.walk visit.logged r (s, []) = .error x (t, before ++ [e])

theorem RecursiveEvents.visits (h : RecursiveEvents f row depth es) :
    Visits f.childIds (fun _ => .keep) row depth es := by
  induction h with
  | nil => exact .nil
  | node _ _ ihb iha => exact .stays rfl ihb iha

theorem Visits.recursiveEvents (h : Visits f.childIds (fun _ => .keep) row depth es) :
    RecursiveEvents f row depth es := by
  induction h with
  | nil => exact .nil
  | stays hs _ _ ihb iha =>
    cases hs
    exact .node ihb iha
  | gone hs => cases hs

theorem RecursiveEvents.length_eq (h : RecursiveEvents f row depth es) :
    es.length = 2 * (entered es).length := by
  induction h with
  | nil => rfl
  | node _ _ ihb iha =>
    simp only [List.length_cons, List.length_append, entered_enter, entered_append, entered_leave,
      ihb, iha]
    omega

theorem admissible_keep (hr : r < f.size) : Admissible f f.childIds (fun _ => .keep) r where
  lt := hr
  sublist _ := List.Sublist.refl _
  replaces := nofun
  distinct := nofun

namespace Forest.WellFormed

variable (hf : f.WellFormed)
include hf

theorem exists_recursiveEvents (hr : r < f.size) (depth : Nat) :
    ∃ es, RecursiveEvents f [r] depth es := by
  obtain ⟨es, h⟩ := (admissible_keep hr).exists_visits hf depth
  exact ⟨es, h.recursiveEvents⟩

theorem above_of_way {way : List NodeId} (hw : VisitPath f.childIds (fun _ => .keep) r x way) :
    f.Above r x := by
  induction hw with
  | top => exact .refl r
  | step _ hs hc ih =>
    cases hs
    exact ih.trans ((Above.refl _).of_parent (hf.mem_iff.mp hc))

theorem mem_entered_iff (h : RecursiveEvents f [r] depth es) : x ∈ entered es ↔ f.Above r x := by
  constructor
  · intro hx
    obtain ⟨c, hc, way, hw, _⟩ := h.visits.way_of_entered (by simpa using VisitPath.top) hx
    exact hf.above_of_way hw
  · intro ha
    induction ha using Relation.ReflTransGen.head_induction_on with
    | refl => exact h.visits.row_entered r (List.mem_singleton_self r)
    | head hp _ ih => exact h.visits.closed ih rfl (hf.mem_iff.mpr hp)

theorem nodup_recursiveEvents (hr : r < f.size) (h : RecursiveEvents f [r] depth es) :
    (entered es).Nodup :=
  (admissible_keep hr).nodup_entered hf h.visits (by simpa using VisitPath.top)
    (List.nodup_singleton r)

theorem lt_of_entered (hr : r < f.size) (h : RecursiveEvents f [r] depth es) :
    ∀ x ∈ entered es, x < f.size := by
  intro x hx
  rcases above_iff.mp ((hf.mem_entered_iff h).mp hx) with rfl | ⟨p, hp, _⟩
  · exact hr
  · exact lt_of_parent? hp

theorem length_entered_le (hr : r < f.size) (h : RecursiveEvents f [r] depth es) :
    (entered es).length ≤ f.size :=
  length_le_of_nodup_of_lt (hf.nodup_recursiveEvents hr h) (hf.lt_of_entered hr h)

end Forest.WellFormed

theorem walkFrom_nil {visit : Visitor σ} (k : Nat) : f.walkFrom visit k [] = pure () := by
  cases k <;> rfl

theorem unfoldFrom_nil (k : Nat) : f.unfoldFrom k [] = [] := by cases k <;> rfl

theorem RecursiveEvents.walkFrom_eq {visit : Visitor σ} (h : RecursiveEvents f row depth es)
    (hlt : ∀ id ∈ entered es, id < f.size) (k : Nat) (stack : List Event) :
    f.walkFrom visit (es.length + k) (row.map (.enter · depth) ++ stack) =
      es.forM visit >>= fun _ => f.walkFrom visit k stack := by
  -- whatever lies further down on the stack waits until the siblings on top are worked off
  induction h generalizing k stack with
  | nil => simp
  | @node n row depth below after _ _ ihb iha =>
    simp only [entered_enter, entered_append, entered_leave, List.forall_mem_cons,
      List.forall_mem_append] at hlt
    obtain ⟨hn, hbelow, hafter⟩ := hlt
    obtain ⟨node, hget⟩ := exists_get? hn
    have hkids : f.childIds n = node.childIds := by rw [childIds, hget]
    have hfuel : (Event.enter n depth :: (below ++ .leave n depth :: after)).length + k =
        below.length + (after.length + k + 1) + 1 := by
      simp only [List.length_cons, List.length_append]
      omega
    rw [hkids] at ihb
    rw [hfuel, List.map_cons, List.cons_append, walkFrom, hget]
    simp only [ihb hbelow, walkFrom, iha hafter, List.forM_eq_forM, List.forM_cons,
      List.forM_append, bind_assoc]

theorem RecursiveEvents.unfoldFrom_eq (h : RecursiveEvents f row depth es) (k : Nat)
    (stack : List NodeId) :
    f.unfoldFrom ((entered es).length + k) (row ++ stack) = entered es ++ f.unfoldFrom k stack := by
  induction h generalizing k stack with
  | nil => simp
  | @node n row depth below after _ _ ihb iha =>
    simp only [entered_enter, entered_append, entered_leave]
    have hfuel : (n :: (entered below ++ entered after)).length + k =
        (entered below).length + ((entered after).length + k) + 1 := by
      simp only [List.length_cons, List.length_append]
      omega
    rw [hfuel, List.cons_append, unfoldFrom, ihb, iha, List.cons_append, List.append_assoc]

namespace Forest.WellFormed

variable (hf : f.WellFormed) (hr : r < f.size) (h : RecursiveEvents f [r] 0 es)
include hf hr h

theorem walk_eq (visit : Visitor σ) : f.walk visit r = es.forM visit := by
  have hlen := hf.length_entered_le hr h
  have hfuel : 2 * f.size + 1 = es.length + (2 * f.size + 1 - es.length) := by
    rw [h.length_eq]
    omega
  rw [walk, hfuel]
  refine (h.walkFrom_eq (hf.lt_of_entered hr h) _ []).trans ?_
  rw [walkFrom_nil, bind_pure_unit]

theorem descendants_eq : f.descendants r = .ok (entered es) := by
  obtain ⟨n, _, hfind⟩ := find_of_lt hr
  have hlen := hf.length_entered_le hr h
  have hall := h.unfoldFrom_eq (f.size - (entered es).length) []
  rw [Nat.add_sub_cancel' hlen, unfoldFrom_nil, List.append_nil, List.append_nil] at hall
  rw [descendants, hfind]
  exact congrArg Except.ok hall

end Forest.WellFormed

section WalkCalls

variable {visit : Visitor σ} {s t u : σ} {y : TreeError}

theorem forM_cons_ok (h : visit e s = .ok () t) : (e :: es).forM visit s = es.forM visit t := by
  show (visit e >>= fun _ => es.forM visit) s = _
  rw [Edit.bind_ok h]

theorem forM_cons_error (h : visit e s = .error y t) : (e :: es).forM visit s = .error y t := by
  show (visit e >>= fun _ => es.forM visit) s = _
  rw [Edit.bind_error h]

theorem logged_ok {log : List Event} (h : visit e s = .ok () t) :
    visit.logged e (s, log) = .ok () (t, log ++ [e]) := by
  simp only [Visitor.logged, h]

theorem logged_error {log : List Event} (h : visit e s = .error y t) :
    visit.logged e (s, log) = .error y (t, log ++ [e]) := by
  simp only [Visitor.logged, h]

theorem forM_logged_ok (h : es.forM visit s = .ok () t) (log : List Event) :
    es.forM visit.logged (s, log) = .ok () (t, log ++ es) := by
  induction es generalizing s log with
  | nil =>
    cases h
    rw [List.append_nil]
    rfl
  | cons e es ih =>
    cases he : visit e s with
    | ok _ u =>
      rw [forM_cons_ok he] at h
      rw [forM_cons_ok (logged_ok he), ih h, List.append_assoc]
      rfl
    | error y u =>
      rw [forM_cons_error he] at h
      cases h

theorem forM_logged_error (h : es.forM visit s = .error y t) (log : List Event) :
    ∃ before e after u, es = before ++ e :: after ∧ before.forM visit s = .ok () u ∧
      visit e u = .error y t ∧
        es.forM visit.logged (s, log) = .error y (t, log ++ (before ++ [e])) := by
  induction es generalizing s log with
  | nil => cases h
  | cons e es ih =>
    cases he : visit e s with
    | ok _ u =>
      rw [forM_cons_ok he] at h
      obtain ⟨before, e', after, v, rfl, hbefore, hfails, hlog⟩ := ih h (log ++ [e])
      refine ⟨e :: before, e', after, v, rfl, ?_, hfails, ?_⟩
      · rw [forM_cons_ok he, hbefore]
      · rw [forM_cons_ok (logged_ok he), hlog, List.append_assoc]
        rfl
    | error y u =>
      rw [forM_cons_error he] at h
      cases h
      exact ⟨[], e, es, s, rfl, rfl, he, forM_cons_error (logged_error he)⟩

theorem forM_noting {note : NodeId → Nat → σ → σ} :
    es.forM (Visitor.noting note) s =
      .ok () ((heads es).foldl (fun s head => note head.1 head.2 s) s) := by
  induction es generalizing s with
  | nil => rfl
  | cons e es ih =>
    cases e with
    | enter id depth => exact (forM_cons_ok rfl).trans ih
    | leave id depth => exact (forM_cons_ok rfl).trans ih

end WalkCalls

theorem Forest.WellFormed.walkCalls (hf : f.WellFormed) (hr : r < f.size)
    (h : RecursiveEvents f [r] 0 es)
    (visit : Visitor σ) (s : σ) : f.WalkCalls r es visit s where
  run := by rw [hf.walk_eq hr h]
  all t ht := by
    rw [hf.walk_eq hr h] at ht ⊢
    exact forM_logged_ok ht []
  part y t ht := by
    rw [hf.walk_eq hr h] at ht ⊢
    exact forM_logged_error ht []

theorem walks_follow_recursion (h : Reachable f) (hr : r < f.size) :
    ∃ es, (∀ l, RecursiveEvents f [r] 0 l ↔ l = es) ∧
      (∀ (σ : Type) (visit : Visitor σ) (s : σ), f.WalkCalls r es visit s) ∧
      f.descendants r = .ok (entered es) ∧
      (∀ (σ : Type) (note : NodeId → Nat → σ → σ) (s : σ), f.forEachNode note r s =
        .ok () ((heads es).foldl (fun s head => note head.1 head.2 s) s)) ∧
      (entered es).Nodup ∧ ∀ x, x ∈ entered es ↔ r ∈ f.lineage x := by
  have hf := h.wellFormed
  obtain ⟨es, hes⟩ := hf.exists_recursiveEvents hr 0
  refine ⟨es, fun l => ⟨fun hl => hl.visits.unique hes.visits, fun hl => hl ▸ hes⟩,
    fun σ visit s => hf.walkCalls hr hes visit s, hf.descendants_eq hr hes, fun σ note s => ?_,
    hf.nodup_recursiveEvents hr hes, fun x => ?_⟩
  · rw [forEachNode, hf.walk_eq hr hes, forM_noting]
  · rw [hf.mem_entered_iff hes, hf.mem_lineage_iff]

theorem walks_follow_recursion_twoLists :
    Reachable twoLists ∧ 0 < twoLists.size ∧ twoLists.descendants 0 = .ok [0, 1, 2, 3] ∧
      ∀ (σ : Type) (visit : Visitor σ) (s : σ), twoLists.WalkCalls 0 [.enter 0 0, .enter 1 1,
        .leave 1 1, .enter 2 1, .leave 2 1, .enter 3 1, .leave 3 1, .leave 0 0] visit s := by
  have h : Reachable twoLists := reaches_runAll _
  have hr : 0 < twoLists.size := by decide
  obtain ⟨es, hes, hwalk, hdescendants, _⟩ := walks_follow_recursion h hr
  have hkids : twoLists.childIds 0 = [1, 2, 3] := by decide
  have hrow : RecursiveEvents twoLists (twoLists.childIds 0) 1
      [.enter 1 1, .leave 1 1, .enter 2 1, .leave 2 1, .enter 3 1, .leave 3 1] := by
    rw [hkids]
    exact @RecursiveEvents.node _ 1 [2, 3] 1 [] _ .nil (@RecursiveEvents.node _ 2 [3] 1 [] _ .nil
      (@RecursiveEvents.node _ 3 [] 1 [] [] .nil .nil))
  obtain rfl := (hes _).mp (.node hrow .nil)
  exact ⟨h, hr, hdescendants, hwalk⟩

end MarkupForest
