import MarkupForest.Forest.Copying
import MarkupForest.Proofs.Forest.Extension

namespace MarkupForest

open Edit Forest

variable {f g : Forest} {id c target : NodeId} {n : Node} {cs : List NodeId}
  {queue : List (NodeId × NodeId)}

theorem Node.childIds_copy : n.copy.childIds = [] := by
  unfold Node.copy Node.childIds
  rw [Body.container?_mapContainer]
  cases n.body.container? <;> rfl

theorem Node.isSome_list_copy :
    (n.copy.body.container?.map Container.childList).isSome =
      (n.body.container?.map Container.childList).isSome := by
  unfold Node.copy
  rw [Body.container?_mapContainer]
  cases n.body.container? <;> rfl

namespace Forest

structure Copying (f g : Forest) (queue : List (NodeId × NodeId)) : Prop where
  old : f.Extends g
  wellFormed : g.WellFormed
  source : ∀ e ∈ queue, e.1 < f.size
  target : ∀ e ∈ queue, f.size ≤ e.2
  list : ∀ e ∈ queue, (f.childList? e.1).isSome → (g.childList? e.2).isSome

namespace Copying

theorem tail {e : NodeId × NodeId} (h : f.Copying g (e :: queue)) : f.Copying g queue where
  old := h.old
  wellFormed := h.wellFormed
  source y hy := h.source y (List.mem_cons_of_mem e hy)
  target y hy := h.target y (List.mem_cons_of_mem e hy)
  list y hy := h.list y (List.mem_cons_of_mem e hy)

theorem copyUnder (h : f.Copying g queue) (hc : c < f.size) (ht : f.size ≤ target)
    (hl : (g.childList? target).isSome) :
    f.Copying (g.copyUnder target c) (queue ++ [(c, g.size)]) ∧
      ((g.copyUnder target c).childList? target).isSome := by
  obtain ⟨n, hn⟩ := exists_get? hc
  have hcopy : g.copyUnder target c = (g.push n.copy).attach target g.size := by
    rw [Forest.copyUnder, h.old hn]
  rw [hcopy]
  refine ⟨⟨?_, ?_, ?_, ?_, ?_⟩, isSome_childList?_hang hl⟩
  · exact (h.old.push _).attach ht h.old.size_le
  · exact h.wellFormed.hang hl rfl Node.childIds_copy
  · intro e he
    rcases List.mem_append.mp he with he | he
    · exact h.source e he
    · rw [List.mem_singleton.mp he]
      exact hc
  · intro e he
    rcases List.mem_append.mp he with he | he
    · exact h.target e he
    · rw [List.mem_singleton.mp he]
      exact h.old.size_le
  · intro e he hs
    rcases List.mem_append.mp he with he | he
    · exact isSome_childList?_hang (h.list e he hs)
    · rw [List.mem_singleton.mp he] at hs ⊢
      rw [isSome_childList?_attach, childList?_push, if_pos rfl, Node.isSome_list_copy]
      simpa [childList?, hn] using hs

theorem copyChildren (h : f.Copying g queue) (hcs : ∀ c ∈ cs, c < f.size) (ht : f.size ≤ target)
    (hl : cs ≠ [] → (g.childList? target).isSome) :
    f.Copying (g.copyChildren target cs).1 (queue ++ (g.copyChildren target cs).2) := by
  induction cs generalizing g queue with
  | nil => simpa [Forest.copyChildren] using h
  | cons c cs ih =>
    obtain ⟨hstep, hkept⟩ := h.copyUnder (hcs c List.mem_cons_self) ht (hl (List.cons_ne_nil c cs))
    have hrest := ih hstep (fun y hy => hcs y (List.mem_cons_of_mem c hy)) fun _ => hkept
    simpa [Forest.copyChildren] using hrest

theorem copyBelow (hf : f.WellFormed) (h : f.Copying g queue) (k : Nat) :
    f.Extends (copyBelow k queue g) ∧ (copyBelow k queue g).WellFormed := by
  induction k generalizing g queue with
  | zero => exact ⟨h.old, h.wellFormed⟩
  | succ k ih =>
    cases queue with
    | nil => exact ⟨h.old, h.wellFormed⟩
    | cons e queue =>
      obtain ⟨source, target⟩ := e
      have hs : source < f.size := h.source (source, target) List.mem_cons_self
      have hids := h.old.childIds_eq hs
      refine ih (h.tail.copyChildren ?_ (h.target (source, target) List.mem_cons_self) ?_)
      · intro c hc
        exact hf.lt_of_mem (hids ▸ hc)
      · intro hne
        obtain ⟨c, hc⟩ := List.exists_mem_of_ne_nil _ hne
        obtain ⟨l, hl, _⟩ := exists_childList?_of_mem (hids ▸ hc)
        exact h.list (source, target) List.mem_cons_self (by rw [hl]; rfl)

end Copying

theorem isDocument_ownerDocument? {d : NodeId} (h : f.ownerDocument? id = some d) :
    f.isDocument d = true :=
  List.find?_some h

theorem isSome_list_of_isDocument (h : n.isDocument = true) :
    (n.body.container?.map Container.childList).isSome := by
  cases n with
  | mk body => cases body <;> simp [Node.isDocument, Node.kind, Body.kind, Body.container?] at h ⊢

def underCopy (f : Forest) (n d : Node) : Forest :=
  ((f.push n.copy).push d.copy).attach (f.size + 1) f.size

theorem copySubtree_cases (f : Forest) (id : NodeId) (n : Node) :
    (∃ o d, n.isDocument = false ∧ f.ownerDocument? id = some o ∧ f.get? o = some d ∧
      d.isDocument = true ∧
      f.copySubtree id n = copyBelow f.size [(id, f.size)] (f.underCopy n d)) ∨
    ((n.isDocument = true ∨ f.ownerDocument? id = none) ∧
      f.copySubtree id n = copyBelow f.size [(id, f.size)] (f.push n.copy)) := by
  unfold copySubtree
  dsimp only
  cases hdoc : n.isDocument with
  | true => exact .inr ⟨.inl rfl, rfl⟩
  | false =>
    cases ho : f.ownerDocument? id with
    | none => exact .inr ⟨.inr rfl, rfl⟩
    | some o =>
      have hiso := isDocument_ownerDocument? ho
      unfold isDocument at hiso
      cases hd : f.get? o with
      | none =>
        rw [hd] at hiso
        cases hiso
      | some d =>
        rw [hd] at hiso
        refine .inl ⟨o, d, rfl, rfl, hd, hiso, ?_⟩
        simp [hd, underCopy]

theorem WellFormed.copying_push (hf : f.WellFormed) (hn : f.get? id = some n) :
    f.Copying (f.push n.copy) [(id, f.size)] where
  old := (Extends.refl f).push _
  wellFormed := hf.push rfl Node.childIds_copy
  source := by simpa using lt_of_get? hn
  target := by simp
  list e he hs := by
    rw [List.mem_singleton.mp he] at hs ⊢
    rw [childList?_push, if_pos rfl, Node.isSome_list_copy]
    simpa [childList?, hn] using hs

section UnderCopy

variable {d : Node} (f n)

theorem parent?_underCopy : (f.underCopy n d).parent? f.size = some (f.size + 1) ∧
    (f.underCopy n d).parent? (f.size + 1) = none := by
  have hlt : f.size < ((f.push n.copy).push d.copy).size := by
    simp only [size_push]
    exact Nat.lt_add_of_pos_right (Nat.succ_pos 1)
  have hne : f.size + 1 ≠ f.size := Nat.succ_ne_self _
  rw [underCopy, parent?_attach hlt, parent?_attach hlt, if_pos rfl, if_neg hne, parent?_push,
    if_pos (size_push f _).symm]
  exact ⟨rfl, rfl⟩

theorem childIds_underCopy (hdoc : d.isDocument = true) :
    (f.underCopy n d).childIds f.size = [] ∧
      (f.underCopy n d).childIds (f.size + 1) = [f.size] := by
  have hsize : (f.push n.copy).size = f.size + 1 := size_push f _
  have hne : f.size ≠ f.size + 1 := Nat.ne_of_lt (Nat.lt_succ_self _)
  have hlist : (((f.push n.copy).push d.copy).childList? (f.size + 1)).isSome := by
    rw [childList?_push, if_pos hsize.symm, Node.isSome_list_copy]
    exact isSome_list_of_isDocument hdoc
  obtain ⟨l, hl⟩ := Option.isSome_iff_exists.mp hlist
  have hholder : ((f.push n.copy).push d.copy).childIds (f.size + 1) = [] := by
    rw [childIds, get?_push, if_pos hsize.symm]
    exact Node.childIds_copy
  rw [underCopy, childIds_attach hl, childIds_attach hl, if_neg hne, if_pos rfl, hholder, childIds,
    get?_push, hsize, if_neg hne]
  exact ⟨childIds_push_self Node.childIds_copy, rfl⟩

variable {f n}

theorem WellFormed.copying_underCopy (hf : f.WellFormed) (hn : f.get? id = some n)
    (hdoc : d.isDocument = true) : f.Copying (f.underCopy n d) [(id, f.size)] := by
  have hg := hf.copying_push hn
  have hsize : (f.push n.copy).size = f.size + 1 := size_push f _
  have hne : f.size ≠ f.size + 1 := Nat.ne_of_lt (Nat.lt_succ_self _)
  have hholder : (d.copy.body.container?.map Container.childList).isSome := by
    rw [Node.isSome_list_copy]
    exact isSome_list_of_isDocument hdoc
  refine ⟨?_, ?_, hg.source, hg.target, fun e he hs => ?_⟩
  · exact (hg.old.push _).attach (Nat.le_succ _) (Nat.le_refl _)
  · obtain ⟨l, hl⟩ := Option.isSome_iff_exists.mp hholder
    have hk : ((f.push n.copy).push d.copy).WellFormed := hg.wellFormed.push rfl Node.childIds_copy
    have hempty : ((f.push n.copy).push d.copy).childIds f.size = [] := by
      rw [childIds, get?_push, hsize, if_neg hne]
      exact childIds_push_self Node.childIds_copy
    refine hk.attach (l := l) ?_ ?_ ?_ (hk.not_above_of_childIds_nil hempty hne)
    · rw [childList?_push, if_pos hsize.symm, hl]
    · simp only [size_push]
      exact Nat.lt_add_of_pos_right (Nat.succ_pos 1)
    · rw [parent?_push, hsize, if_neg hne, parent?_push, if_pos rfl]
      rfl
  · rw [underCopy, isSome_childList?_attach, childList?_push, hsize]
    split
    · exact hholder
    · exact hg.list e he hs

end UnderCopy

theorem WellFormed.copySubtree (hf : f.WellFormed) (hn : f.get? id = some n) :
    f.Extends (f.copySubtree id n) ∧ (f.copySubtree id n).WellFormed := by
  rcases f.copySubtree_cases id n with ⟨o, d, _, _, _, hdoc, hcopy⟩ | ⟨_, hcopy⟩
  · rw [hcopy]
    exact (hf.copying_underCopy hn hdoc).copyBelow hf _
  · rw [hcopy]
    exact (hf.copying_push hn).copyBelow hf _

end Forest

theorem deepClone_ok (hn : f.find id = .ok n) :
    deepClone id f = .ok f.size (f.copySubtree id n) := by
  rw [deepClone, bind_ok (ask_ok hn), bind_ok get_eq, bind_ok modify_eq, pure_eq]

theorem deepClone_error {x : TreeError} (h : f.find id = .error x) :
    deepClone id f = .error x f := by
  rw [deepClone, bind_error (ask_error h)]

end MarkupForest
