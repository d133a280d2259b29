import MarkupForest.Proofs.SiblingIndex.Alike
import MarkupForest.Proofs.Edit.Safety

namespace MarkupForest

open Edit Forest

variable {α : Type} {e : Edit α} {f g : Forest} {p c id x : NodeId} {ids : List NodeId} {i : Nat}

structure ChecksFirst (e : Edit α) (check : Forest → Except TreeError Unit) (answer : Forest → α)
    (move : Forest → Forest) : Prop where
  ok : ∀ ⦃f⦄, f.WellFormed → check f = .ok () → e f = .ok (answer f) (move f)
  error : ∀ ⦃f⦄, f.WellFormed → ∀ ⦃x⦄, check f = .error x → ∃ g, e f = .error x g ∧ g.Alike f

namespace ChecksFirst

variable {check : Forest → Except TreeError Unit} {answer : Forest → α} {move : Forest → Forest}

theorem of_checked (h : ∀ f, f.WellFormed → e f = checked (check f) (answer f) f (move f)) :
    ChecksFirst e check answer move where
  ok f hf hc := by
    rw [h f hf, hc]
    rfl
  error f hf x hx := ⟨f, by rw [h f hf, hx]; rfl, .refl f⟩

theorem atomic (h : ChecksFirst e check answer move) (hf : f.WellFormed) {x : TreeError}
    (hrun : e f = .error x g) : g.Alike f := by
  cases hc : check f with
  | ok _ =>
    rw [h.ok hf hc] at hrun
    cases hrun
  | error y =>
    obtain ⟨k, hk, hka⟩ := h.error hf hc
    rw [hk] at hrun
    cases hrun
    exact hka

theorem after_ask {β : Type} {q : Forest → Except TreeError β} {k : β → Edit α}
    (hk : ∀ f b, f.WellFormed → q f = .ok b → check f = .ok () →
      k b f = .ok (answer f) (move f))
    (hx : ∀ f b x, f.WellFormed → q f = .ok b → check f = .error x →
      ∃ g, k b f = .error x g ∧ g.Alike f) :
    ChecksFirst (ask q >>= k) (fun f => do let _ ← q f; check f) answer move where
  ok f hf hc := by
    cases hq : q f with
    | error x => simp [hq, bind, Except.bind] at hc
    | ok b =>
      rw [bind_ok (ask_ok hq)]
      exact hk f b hf hq (by simpa [hq, bind, Except.bind] using hc)
  error f hf x hc := by
    cases hq : q f with
    | error y =>
      have hy : y = x := by simpa [hq, bind, Except.bind] using hc
      exact ⟨f, by rw [bind_error (ask_error hq), hy], .refl f⟩
    | ok b =>
      obtain ⟨g, hg, ha⟩ := hx f b x hf hq (by simpa [hq, bind, Except.bind] using hc)
      exact ⟨g, by rw [bind_ok (ask_ok hq), hg], ha⟩

end ChecksFirst

theorem Forest.Insertable.alike (h : f.Insertable p ids) (hf : f.WellFormed) (hg : g.WellFormed)
    (ha : f.Alike g) : g.Insertable p ids := by
  rw [← checkInsert_eq_ok_iff hg, ← ha.eq_of (q := (checkInsert · p ids)) fun _ => checkInsert_bare]
  exact (checkInsert_eq_ok_iff hf).mpr h

theorem Forest.checkParent_eq_ok {operation : String} (h : f.checkParent operation c = .ok p) :
    f.parent? c = some p := by
  unfold checkParent at h
  by_cases hc : c < f.size
  · rw [parent_of_lt hc] at h
    simp only [bind, Except.bind] at h
    split at h
    · next hp =>
      cases h
      exact hp
    · cases h
  · rw [parent_of_size_le (Nat.le_of_not_lt hc)] at h
    cases h

theorem Forest.checkParent_of_parent? {operation : String} (h : f.parent? c = some p) :
    f.checkParent operation c = .ok p := by
  unfold checkParent
  rw [parent_of_lt (lt_of_parent? h), h]
  rfl

theorem checksFirst_appendChild :
    ChecksFirst (appendChild p c) (·.checkAppend p c) (fun _ => ()) fun f =>
        (f.detach c).attach p c :=
  .of_checked fun _ hf => appendChild_eq hf

theorem checksFirst_insertAll :
    ChecksFirst (insertAll p i ids) (·.checkInsert p ids) (fun _ => ()) (·.insertIds p i ids) :=
  .of_checked fun _ hf => insertAll_eq hf

theorem checksFirst_appendChildren :
    ChecksFirst (appendChildren p ids) (fun f => do let _ ← f.childCount p; f.checkInsert p ids)
      (fun _ => ()) fun f => f.insertIds p (f.childIds p).length ids := by
  refine .after_ask (fun f n hf hn hc => ?_) fun f n x hf _ hc => ?_
  · have hcount : n = (f.childIds p).length := by
      unfold childCount at hn
      cases hfind : f.find p with
      | error x => simp [hfind, bind, Except.bind] at hn
      | ok m =>
        simp only [hfind, bind, Except.bind, pure, Except.pure, Except.ok.injEq] at hn
        rw [← hn, childIds, find_eq_ok_iff.mp hfind]
    rw [hcount]
    exact checksFirst_insertAll.ok hf hc
  · exact checksFirst_insertAll.error hf hc

theorem checksFirst_insertChildren :
    ChecksFirst (insertChildren p i ids)
      (fun f => do
        let count ← f.childCount p
        if count < i then throw (.indexOutOfRange i count)
        f.checkInsert p ids)
      (fun _ => ()) (·.insertIds p i ids) := by
  have hchecked : ∀ f, f.WellFormed → insertChildren p i ids f = checked
      (do
        let count ← f.childCount p
        if count < i then throw (.indexOutOfRange i count)
        f.checkInsert p ids) () f (f.insertIds p i ids) := by
    intro f hf
    unfold insertChildren
    cases hcount : f.childCount p with
    | error x =>
      rw [bind_error (ask_error hcount)]
      rfl
    | ok count =>
      rw [bind_ok (ask_ok hcount)]
      by_cases hi : count < i
      · rw [if_pos hi]
        simp only [bind, Except.bind, if_pos hi]
        rfl
      · rw [if_neg hi]
        refine (insertAll_eq hf).trans ?_
        simp only [bind, Except.bind, if_neg hi]
  exact .of_checked hchecked

def Forest.replaceMove (f : Forest) (id replacement : NodeId) : Forest :=
  match f.parent? id with
  | some p => if id = replacement then f else f.exchange p id replacement
  | none => f

theorem checksFirst_replaceWith {new : NodeId} :
    ChecksFirst (replaceWith id new)
      (fun f => do
        let p ← f.checkParent "replace_with" id
        if id = new then return
        f.checkReplace p id new)
      (fun _ => ()) (·.replaceMove id new) := by
  have hchecked : ∀ f, f.WellFormed → replaceWith id new f = checked
      (do
        let p ← f.checkParent "replace_with" id
        if id = new then return
        f.checkReplace p id new) () f (f.replaceMove id new) := by
    intro f hf
    unfold replaceWith
    cases hp : f.checkParent "replace_with" id with
    | error x =>
      rw [bind_error (ask_error hp)]
      rfl
    | ok p =>
      rw [bind_ok (ask_ok hp), replaceMove, checkParent_eq_ok hp]
      by_cases hne : id = new
      · subst hne
        rw [replaceChild_self]
        simp [checked, bind, Except.bind, pure, Except.pure]
      · rw [replaceChild_eq hf hne]
        simp only [hne, if_false, bind, Except.bind]
  exact .of_checked hchecked

theorem replaceWith_ok {new : NodeId} (hf : f.WellFormed) (hne : id ≠ new)
    (hp : f.parent? id = some p) (ha : ¬ f.Above new p) (hlt : new < f.size) :
    replaceWith id new f = .ok () (f.exchange p id new) := by
  have hcheck : f.checkReplace p id new = .ok () := (checkReplace_eq_ok_iff hf).mpr ⟨hp, ha, hlt⟩
  rw [replaceWith, bind_ok (ask_ok (checkParent_of_parent? hp)), replaceChild_eq hf hne, hcheck]
  rfl

def Forest.besideMove (f : Forest) (side : Side) (id sibling : NodeId) : Forest :=
  match f.parent? id with
  | some p =>
    if sibling = id then f
    else
      let g := if f.parent? sibling = some p then f.detach sibling else f
      (g.settle p).insertIds p ((g.childIds p).idxOf id + side.offset) [sibling]
  | none => f

theorem insert_at_neighbour (hf : f.WellFormed) (hp : f.parent? id = some p) {k : Nat} :
    (do insertAll p ((← siblingIndex id) + k) ids : Edit Unit) f =
      checked (f.checkInsert p ids) () (f.settle p)
        ((f.settle p).insertIds p ((f.childIds p).idxOf id + k) ids) := by
  rw [bind_ok (siblingIndex_child hf hp), insertAll_eq hf.settle,
    Alike.of_settle.eq_of (q := (checkInsert · p ids)) fun _ => checkInsert_bare]

theorem Forest.WellFormed.insertable_detach (hf : f.WellFormed) (h : f.parent? c = some p) :
    (f.detach c).Insertable p [c] := by
  obtain ⟨l, hl, _⟩ := hf.exists_childList? h
  refine ⟨?_, ?_, List.nodup_singleton c, ?_⟩
  · rw [isSome_childList?_detach, hl]
    rfl
  · simpa using lt_of_parent? h
  · intro y hy hab
    rw [List.mem_singleton.mp hy] at hab
    exact hf.acyclic.not_above_parent h hab.of_detach

theorem Forest.WellFormed.insertable_self (hf : f.WellFormed) (h : f.parent? c = some p) :
    f.Insertable p [c] := by
  obtain ⟨l, hl, _⟩ := hf.exists_childList? h
  refine ⟨by rw [hl]; rfl, ?_, List.nodup_singleton c, ?_⟩
  · simpa using lt_of_parent? h
  · intro y hy hab
    rw [List.mem_singleton.mp hy] at hab
    exact hf.acyclic.not_above_parent h hab

theorem checksFirst_insertBeside (side : Side) {sibling : NodeId} :
    ChecksFirst (insertBeside side id sibling)
      (fun f => do
        let p ← f.checkParent "before/after" id
        if sibling = id then return
        f.checkInsert p [sibling])
      (fun _ => ()) (·.besideMove side id sibling) := by
  have hrun : ∀ f p, f.WellFormed → f.checkParent "before/after" id = .ok p → sibling ≠ id →
      ∃ g, g.Alike f ∧ insertBeside side id sibling f =
        checked (f.checkInsert p [sibling]) () g (f.besideMove side id sibling) := by
    intro f p hf hcheck hne
    have hp := checkParent_eq_ok hcheck
    unfold insertBeside
    rw [bind_ok (ask_ok hcheck), if_neg hne, besideMove, hp]
    simp only [if_neg hne]
    by_cases hs : sibling < f.size
    · rw [bind_ok (ask_ok (parent_of_lt hs))]
      by_cases hsp : f.parent? sibling = some p
      · have hcont : f.checkInsert p [sibling] = .ok () :=
          (checkInsert_eq_ok_iff hf).mpr (hf.insertable_self hsp)
        have hdet : (f.detach sibling).checkInsert p [sibling] = .ok () :=
          (checkInsert_eq_ok_iff (hf.detach sibling)).mpr (hf.insertable_detach hsp)
        have hdp : (f.detach sibling).parent? id = some p := by
          rw [parent?_detach, if_neg (Ne.symm hne), hp]
        refine ⟨f, .refl f, ?_⟩
        rw [if_pos hsp, if_pos hsp, bind_ok (removeChild_ok (hf.placed sibling) hsp),
          insert_at_neighbour (hf.detach sibling) hdp, hcont, hdet]
        rfl
      · refine ⟨f.settle p, Alike.of_settle, ?_⟩
        rw [if_neg hsp, if_neg hsp]
        exact insert_at_neighbour hf hp
    · have hmiss := Nat.le_of_not_lt hs
      obtain ⟨l, hl, _⟩ := hf.exists_childList? hp
      have hcont : f.checkContainer p = .ok () := checkContainer_eq_ok_iff.mpr (by rw [hl]; rfl)
      have hins : f.checkInsert p [sibling] = .error (.noSuchNode sibling) := by
        simp [checkInsert, hcont, checkInserted, find_of_size_le hmiss, bind, Except.bind]
      refine ⟨f, .refl f, ?_⟩
      rw [bind_error (ask_error (parent_of_size_le hmiss)), hins]
      rfl
  constructor
  · intro f hf hc
    cases hcheck : f.checkParent "before/after" id with
    | error x => simp [hcheck, bind, Except.bind] at hc
    | ok p =>
      by_cases hs : sibling = id
      · unfold insertBeside
        rw [bind_ok (ask_ok hcheck), if_pos hs, besideMove, checkParent_eq_ok hcheck]
        simp [hs, pure_eq]
      · obtain ⟨g, _, hg⟩ := hrun f p hf hcheck hs
        have hins : f.checkInsert p [sibling] = .ok () := by
          simpa [hcheck, hs, bind, Except.bind] using hc
        rw [hg, hins]
        rfl
  · intro f hf x hc
    cases hcheck : f.checkParent "before/after" id with
    | error y =>
      have hy : y = x := by simpa [hcheck, bind, Except.bind] using hc
      unfold insertBeside
      exact ⟨f, by rw [bind_error (ask_error hcheck), hy], .refl f⟩
    | ok p =>
      by_cases hs : sibling = id
      · simp [hcheck, hs, bind, Except.bind, pure, Except.pure] at hc
      · obtain ⟨g, hga, hg⟩ := hrun f p hf hcheck hs
        have hins : f.checkInsert p [sibling] = .error x := by
          simpa [hcheck, hs, bind, Except.bind] using hc
        refine ⟨g, ?_, hga⟩
        rw [hg, hins]
        rfl

theorem Forest.WellFormed.insertable_children (hf : f.WellFormed) (h : f.parent? id = some p) :
    f.Insertable p (f.childIds id) := by
  obtain ⟨l, hl, _⟩ := hf.exists_childList? h
  refine ⟨by rw [hl]; rfl, fun c hc => hf.lt_of_mem hc, hf.nodup id, fun c hc hab => ?_⟩
  exact hf.acyclic.not_above_parent (hf.mem_iff.mp hc) (.of_parent h hab)

theorem Forest.parent?_insertIds (hf : f.WellFormed) (h : f.Insertable p ids) :
    (f.insertIds p i ids).parent? x = if x ∈ ids then some p else f.parent? x := by
  unfold insertIds
  by_cases hn : ids = []
  · simp [hn]
  · rw [if_neg hn]
    cases how : f.wholeListOwner? ids with
    | none => exact parent?_gather hf h.nodup h.lt
    | some q =>
      obtain ⟨hids, _⟩ := wholeListOwner?_eq_some how hn
      by_cases hqp : q = p
      · simp only [hqp, if_true]
        split
        · next hx => rw [← hqp, ← hf.mem_iff, hids]; exact hx
        · rfl
      · simp only [hqp, if_false]
        rw [parent?_handOver hf, hids]

def Forest.unwrapMove (f : Forest) (id : NodeId) : Forest :=
  match f.parent? id with
  | some p => ((f.settle p).insertIds p ((f.childIds p).idxOf id) (f.childIds id)).detach id
  | none => f

theorem checksFirst_unwrap :
    ChecksFirst (unwrap id) (fun f => do let _ ← f.checkParent "unwrap" id)
      (fun f => (f.childIds id).head?) (·.unwrapMove id) := by
  constructor
  · intro f hf hc
    cases hcheck : f.checkParent "unwrap" id with
    | error x => simp [hcheck, bind, Except.bind] at hc
    | ok p =>
      have hp := checkParent_eq_ok hcheck
      have hchildren := children_of_lt (lt_of_parent? hp)
      have hw := hf.settle (p := p)
      have hins : (f.settle p).Insertable p (f.childIds id) :=
        (hf.insertable_children hp).alike hf hw Alike.of_settle.symm
      have hrun : insertAll p ((f.childIds p).idxOf id) (f.childIds id) (f.settle p) =
          .ok () ((f.settle p).insertIds p ((f.childIds p).idxOf id) (f.childIds id)) := by
        rw [insertAll_eq hw, (checkInsert_eq_ok_iff hw).mpr hins]
        rfl
      have hkept : ((f.settle p).insertIds p ((f.childIds p).idxOf id) (f.childIds id)).parent? id =
          some p := by
        have hself : id ∉ f.childIds id := fun hm =>
          hf.acyclic.not_above_parent (hf.mem_iff.mp hm) (.refl id)
        rw [parent?_insertIds hw hins, if_neg hself, parent?_settle, hp]
      rw [unwrap, bind_ok (ask_ok hcheck), bind_ok (ask_ok hchildren),
        bind_ok (siblingIndex_child hf hp), bind_ok hrun,
        bind_ok (removeChild_ok ((hw.insert hins).placed id) hkept), unwrapMove, hp]
      rfl
  · intro f hf x hc
    cases hcheck : f.checkParent "unwrap" id with
    | ok p => simp [hcheck, bind, Except.bind, pure, Except.pure] at hc
    | error y =>
      have hy : y = x := by simpa [hcheck, bind, Except.bind] using hc
      exact ⟨f, by rw [unwrap, bind_error (ask_error hcheck), hy], .refl f⟩

theorem checksFirst_remove :
    ChecksFirst (remove id) (fun f => do let _ ← f.find id) (fun _ => ()) (·.detach id) := by
  refine .of_checked fun f hf => ?_
  by_cases hid : id < f.size
  · obtain ⟨n, _, hfind⟩ := find_of_lt hid
    rw [remove_ok (hf.placed id) hid, hfind]
    rfl
  · have hmiss := Nat.le_of_not_lt hid
    rw [remove_missing hmiss, find_of_size_le hmiss]
    rfl

theorem checksFirst_removeChildren :
    ChecksFirst (removeChildren id) (fun f => (f.find id).map fun _ => ()) (fun _ => ())
      (·.clearChildren id) :=
  .of_checked fun _ hf => removeChildren_eq hf

end MarkupForest
