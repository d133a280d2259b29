import MarkupForest.Proofs.Edit.InsertChildren
import MarkupForest.Proofs.Outline.Growth
import MarkupForest.Proofs.Outline.Markup

namespace MarkupForest

open Edit Forest

variable {f g h : Forest} {id c p x target : NodeId} {n n' : Node} {cs : List NodeId}
  {done queue : List (NodeId × NodeId)}

def Node.matter (n : Node) : Body × Option (List Entry) × Option NodeRanges :=
  (n.body.mapContainer fun _ => .empty, n.attributes?.map Attributes.entries, n.ranges)

theorem Container.seen_congr {b c : Container}
    (h : b.attributes.map Attributes.entries = c.attributes.map Attributes.entries) :
    b.seen = c.seen := by
  unfold seen
  revert h
  rcases b.attributes with _ | ⟨as, _⟩ <;> rcases c.attributes with _ | ⟨bs, _⟩ <;> intro h
  · rfl
  · cases h
  · cases h
  · obtain rfl : as = bs := Option.some_inj.mp h
    rfl

namespace Node

theorem matter_copy : n.copy.matter = n.matter := by
  cases n with
  | mk body parent index ranges =>
    cases body with
    | document cases output inner =>
      obtain ⟨children, attributes⟩ := inner
      cases attributes <;> rfl
    | element tag inner =>
      obtain ⟨children, attributes⟩ := inner
      cases attributes <;> rfl
    | _ => rfl

theorem matter_mapChildren (u : ChildList → ChildList) : (n.mapChildren u).matter = n.matter := by
  cases n with
  | mk body => cases body <;> rfl

theorem kind_eq_of_matter (h : n.matter = n'.matter) : n.kind = n'.kind := by
  have hbody := congrArg (fun m => Body.kind m.1) h
  simpa [matter, kind] using hbody

theorem document_of_matter (h : n'.matter = n.matter) {cases : CasePolicy} {output : OutputRules}
    {inner : Container} (hn : n.body = .document cases output inner) :
    ∃ inner', n'.body = .document cases output inner' := by
  have hbody : n'.body.mapContainer (fun _ => .empty) = .document cases output .empty := by
    have hfst := congrArg Prod.fst h
    simpa [matter, hn, Body.mapContainer] using hfst
  cases hn' : n'.body with
  | document cases' output' inner' =>
    rw [hn'] at hbody
    cases hbody
    exact ⟨inner', rfl⟩
  | _ =>
    rw [hn'] at hbody
    cases hbody

theorem label_eq_of_matter (h : n'.matter = n.matter) : n'.body.label = n.body.label := by
  obtain ⟨hbody, hrest⟩ := Prod.ext_iff.mp h
  have hentries : n'.attributes?.map Attributes.entries = n.attributes?.map Attributes.entries :=
    (Prod.ext_iff.mp hrest).1
  simp only [matter] at hbody
  unfold attributes? at hentries
  revert hbody hentries
  cases n'.body <;> cases n.body <;> intro hbody hentries <;> cases hbody <;>
    first | rfl | rw [Body.label, Body.label, Container.seen_congr hentries]

end Node

namespace Forest

def matter? (f : Forest) (x : NodeId) : Option (Body × Option (List Entry) × Option NodeRanges) :=
  (f.get? x).map Node.matter

theorem matter?_of_get? (hn : f.get? x = some n) : f.matter? x = some n.matter := by
  rw [matter?, hn]
  rfl

theorem matter?_push :
    (f.push n).matter? x = if x = f.size then some n.matter else f.matter? x := by
  rw [matter?, get?_push]
  split <;> rfl

theorem matter?_modify {u : Node → Node} (hu : ∀ n, (u n).matter = n.matter) :
    (f.modify p u).matter? x = f.matter? x := by
  unfold matter?
  rw [get?_modify]
  split
  · cases f.get? x <;> simp [hu]
  · rfl

@[simp] theorem matter?_setParent {q : Option NodeId} :
    (f.setParent c q).matter? x = f.matter? x :=
  matter?_modify fun n => by cases n; rfl

@[simp] theorem matter?_setIndex {i : Nat} : (f.setIndex c i).matter? x = f.matter? x :=
  matter?_modify fun n => by cases n; rfl

@[simp] theorem matter?_changeChildren {u : ChildList → ChildList} :
    (f.changeChildren c u).matter? x = f.matter? x :=
  matter?_modify fun _ => Node.matter_mapChildren u

theorem matter?_attach : (f.attach p c).matter? x = f.matter? x := by simp [attach]

theorem matter?_underCopy {d : Node} : (f.underCopy n d).matter? f.size = some n.matter ∧
    (f.underCopy n d).matter? (f.size + 1) = some d.matter := by
  have hsize : (f.push n.copy).size = f.size + 1 := size_push f _
  have hne : f.size ≠ f.size + 1 := Nat.ne_of_lt (Nat.lt_succ_self _)
  rw [underCopy, matter?_attach, matter?_attach, matter?_push, matter?_push, matter?_push, hsize,
    if_neg hne, if_pos rfl, if_pos rfl, Node.matter_copy, Node.matter_copy]
  exact ⟨rfl, rfl⟩

theorem exists_matter (h : g.matter? x = f.matter? c) (hc : f.get? c = some n) :
    ∃ n', g.get? x = some n' ∧ n'.matter = n.matter := by
  rw [matter?, matter?, hc] at h
  exact Option.map_eq_some_iff.mp h

section CopyUnder

variable (hold : f.Extends g) (hc : c < f.size)
include hold hc

theorem copyUnder_eq (target : NodeId) : ∃ n, f.get? c = some n ∧
    g.copyUnder target c = (g.push n.copy).attach target g.size := by
  obtain ⟨n, hn⟩ := exists_get? hc
  exact ⟨n, hn, by rw [copyUnder, hold hn]⟩

theorem size_copyUnder (target : NodeId) : (g.copyUnder target c).size = g.size + 1 := by
  obtain ⟨n, _, hcopy⟩ := copyUnder_eq hold hc target
  rw [hcopy, size_attach, size_push]

theorem parent?_copyUnder : (g.copyUnder target c).parent? x =
    if x = g.size then some target else g.parent? x := by
  obtain ⟨n, _, hcopy⟩ := copyUnder_eq hold hc target
  rw [hcopy, parent?_attach (by simp), parent?_push]
  split <;> rfl

theorem matter?_copyUnder : (g.copyUnder target c).matter? x =
    if x = g.size then f.matter? c else g.matter? x := by
  obtain ⟨n, hn, hcopy⟩ := copyUnder_eq hold hc target
  rw [hcopy, matter?_attach, matter?_push, Node.matter_copy, matter?_of_get? hn]

variable (hl : (g.childList? target).isSome)
include hl

theorem childIds_copyUnder : (g.copyUnder target c).childIds x =
    if x = g.size then [] else if x = target then g.childIds target ++ [g.size]
    else g.childIds x := by
  obtain ⟨n, _, hcopy⟩ := copyUnder_eq hold hc target
  obtain ⟨l, hl⟩ := Option.isSome_iff_exists.mp hl
  rw [hcopy, childIds_hang hl Node.childIds_copy]

end CopyUnder

structure Copied (f g g' : Forest) (target : NodeId) (cs : List NodeId)
    (new : List (NodeId × NodeId)) : Prop where
  sources : new.map Prod.fst = cs
  targets : new.map Prod.snd = List.range' g.size cs.length
  size : g'.size = g.size + cs.length
  children : g'.childIds target = g.childIds target ++ new.map Prod.snd
  fresh : ∀ e ∈ new, g'.matter? e.2 = f.matter? e.1 ∧ g'.childIds e.2 = []
  kept : ∀ x < g.size, g'.matter? x = g.matter? x ∧ g'.parent? x = g.parent? x ∧
    (x ≠ target → g'.childIds x = g.childIds x)

theorem Copying.copied (hg : f.Copying g queue) (hcs : ∀ c ∈ cs, c < f.size)
    (ht : f.size ≤ target) (hlt : target < g.size)
    (hl : cs ≠ [] → (g.childList? target).isSome) :
    Copied f g (g.copyChildren target cs).1 target cs (g.copyChildren target cs).2 := by
  induction cs generalizing g queue with
  | nil =>
    exact ⟨rfl, rfl, rfl, (List.append_nil _).symm, by simp [Forest.copyChildren],
      fun x _ => ⟨rfl, rfl, fun _ => rfl⟩⟩
  | cons c cs ih =>
    have hc := hcs c List.mem_cons_self
    have hl := hl (List.cons_ne_nil c cs)
    obtain ⟨hstep, hkept⟩ := hg.copyUnder hc ht hl
    have hsize := size_copyUnder hg.old hc target
    have hrest := ih hstep (fun y hy => hcs y (List.mem_cons_of_mem c hy))
      (hsize ▸ Nat.lt_succ_of_lt hlt) fun _ => hkept
    have hne : target ≠ g.size := Nat.ne_of_lt hlt
    have hnew : g.size < (g.copyUnder target c).size := hsize ▸ Nat.lt_succ_self _
    simp only [Forest.copyChildren]
    refine ⟨?_, ?_, ?_, ?_, ?_, ?_⟩
    · rw [List.map_cons, hrest.sources]
    · rw [List.map_cons, hrest.targets, hsize]
      rfl
    · rw [hrest.size, hsize, List.length_cons]
      omega
    · rw [hrest.children, childIds_copyUnder hg.old hc hl, if_neg hne, if_pos rfl, List.map_cons]
      simp
    · rintro e (_ | ⟨_, he⟩)
      · obtain ⟨hmatter, _, hids⟩ := hrest.kept g.size hnew
        refine ⟨hmatter.trans ?_, (hids (Ne.symm hne)).trans ?_⟩
        · rw [matter?_copyUnder hg.old hc, if_pos rfl]
        · rw [childIds_copyUnder hg.old hc hl, if_pos rfl]
      · exact hrest.fresh e he
    · intro x hx
      have hxne : x ≠ g.size := Nat.ne_of_lt hx
      obtain ⟨hmatter, hparent, hids⟩ := hrest.kept x (hx.trans hnew)
      refine ⟨hmatter.trans ?_, hparent.trans ?_, fun hxt => (hids hxt).trans ?_⟩
      · rw [matter?_copyUnder hg.old hc, if_neg hxne]
      · rw [parent?_copyUnder hg.old hc, if_neg hxne]
      · rw [childIds_copyUnder hg.old hc hl, if_neg hxne, if_neg hxt]

structure Mirror (f : Forest) (id : NodeId) (g : Forest) (done queue : List (NodeId × NodeId)) :
    Prop where
  copying : f.Copying g queue
  root : (id, f.size) ∈ done ++ queue
  sources : ((done ++ queue).map Prod.fst).Nodup
  targets : ((done ++ queue).map Prod.snd).Nodup
  below : ∀ e ∈ done ++ queue, f.Above id e.1
  fresh : ∀ e ∈ done ++ queue, f.size ≤ e.2 ∧ e.2 < g.size
  matter : ∀ e ∈ done ++ queue, g.matter? e.2 = f.matter? e.1
  hung : ∀ e ∈ done ++ queue, e.1 = id ∨ ∃ p ∈ done, f.parent? e.1 = some p.1
  copied : ∀ e ∈ done, ∃ kids ⊆ done ++ queue,
    kids.map Prod.fst = f.childIds e.1 ∧ kids.map Prod.snd = g.childIds e.2
  waiting : ∀ e ∈ queue, g.childIds e.2 = []

namespace Mirror

variable {s t : NodeId}

theorem not_mem_sources (hf : f.WellFormed) (h : Mirror f id g done ((s, t) :: queue))
    (hc : c ∈ f.childIds s) : c ∉ (done ++ (s, t) :: queue).map Prod.fst := by
  intro hmem
  obtain ⟨e, he, rfl⟩ := List.mem_map.mp hmem
  have hparent := hf.mem_iff.mp hc
  rcases h.hung e he with hid | ⟨p, hp, hep⟩
  · rw [hid] at hparent
    exact hf.acyclic.not_above_parent hparent (h.below (s, t) (by simp))
  · obtain rfl : s = p.1 := Option.some_inj.mp (hparent.symm.trans hep)
    have hnodup := h.sources
    rw [List.map_append, List.nodup_append] at hnodup
    exact hnodup.2.2 p.1 (List.mem_map_of_mem hp) p.1 (by simp) rfl

theorem step (hf : f.WellFormed) (h : Mirror f id g done ((s, t) :: queue)) :
    Mirror f id (g.copyChildren t (f.childIds s)).1 (done ++ [(s, t)])
      (queue ++ (g.copyChildren t (f.childIds s)).2) ∧
    Copied f g (g.copyChildren t (f.childIds s)).1 t (f.childIds s)
      (g.copyChildren t (f.childIds s)).2 := by
  have hmem : (s, t) ∈ done ++ (s, t) :: queue := by simp
  have hcs : ∀ c ∈ f.childIds s, c < f.size := fun c hc => hf.lt_of_mem hc
  have hlist : f.childIds s ≠ [] → (g.childList? t).isSome := by
    intro hne
    obtain ⟨c, hc⟩ := List.exists_mem_of_ne_nil _ hne
    obtain ⟨l, hl, _⟩ := exists_childList?_of_mem hc
    exact h.copying.list (s, t) List.mem_cons_self (by rw [hl]; rfl)
  have hcopied := h.copying.tail.copied hcs (h.fresh _ hmem).1 (h.fresh _ hmem).2 hlist
  have hcopying := h.copying.tail.copyChildren hcs (h.fresh _ hmem).1 hlist
  generalize g.copyChildren t (f.childIds s) = r at hcopied hcopying
  have hpairs : (done ++ [(s, t)]) ++ (queue ++ r.2) = (done ++ (s, t) :: queue) ++ r.2 := by simp
  have hnew : ∀ e ∈ r.2, e.1 ∈ f.childIds s ∧ g.size ≤ e.2 ∧ e.2 < r.1.size := by
    intro e he
    have hsource := List.mem_map_of_mem (f := Prod.fst) he
    have htarget := List.mem_map_of_mem (f := Prod.snd) he
    rw [hcopied.sources] at hsource
    rw [hcopied.targets, List.mem_range'_1] at htarget
    exact ⟨hsource, htarget.1, hcopied.size ▸ htarget.2⟩
  have hne : ∀ e ∈ done ++ queue, e.2 ≠ t := by
    rintro e he rfl
    have hnodup := h.targets
    rw [List.map_append, List.map_cons, List.nodup_middle, List.nodup_cons, ← List.map_append]
      at hnodup
    exact hnodup.1 (List.mem_map.mpr ⟨e, he, rfl⟩)
  have hkept : ∀ e ∈ done ++ queue, r.1.childIds e.2 = g.childIds e.2 := by
    intro e he
    have hmem' : e ∈ done ++ (s, t) :: queue := by
      rw [List.mem_append, List.mem_cons]
      exact (List.mem_append.mp he).imp_right .inr
    exact (hcopied.kept e.2 (h.fresh e hmem').2).2.2 (hne e he)
  refine ⟨⟨hcopying, ?_, ?_, ?_, ?_, ?_, ?_, ?_, ?_, ?_⟩, hcopied⟩
  · rw [hpairs]
    exact List.mem_append_left _ h.root
  · rw [hpairs, List.map_append, hcopied.sources]
    refine List.nodup_append.mpr ⟨h.sources, hf.nodup s, ?_⟩
    rintro c hc _ hc' rfl
    exact h.not_mem_sources hf hc' hc
  · rw [hpairs, List.map_append, hcopied.targets]
    refine List.nodup_append.mpr ⟨h.targets, List.nodup_range', ?_⟩
    rintro y hy _ hy' rfl
    obtain ⟨e, he, rfl⟩ := List.mem_map.mp hy
    exact absurd (h.fresh e he).2 (Nat.not_lt.mpr (List.mem_range'_1.mp hy').1)
  · rw [hpairs]
    intro e he
    rcases List.mem_append.mp he with he | he
    · exact h.below e he
    · exact (h.below (s, t) hmem).of_parent (hf.mem_iff.mp (hnew e he).1)
  · rw [hpairs]
    intro e he
    rcases List.mem_append.mp he with he | he
    · exact ⟨(h.fresh e he).1, (h.fresh e he).2.trans_le (hcopied.size ▸ Nat.le_add_right _ _)⟩
    · exact ⟨h.copying.old.size_le.trans (hnew e he).2.1, (hnew e he).2.2⟩
  · rw [hpairs]
    intro e he
    rcases List.mem_append.mp he with he | he
    · exact (hcopied.kept e.2 (h.fresh e he).2).1.trans (h.matter e he)
    · exact (hcopied.fresh e he).1
  · rw [hpairs]
    intro e he
    rcases List.mem_append.mp he with he | he
    · refine (h.hung e he).imp_right ?_
      rintro ⟨p, hp, hep⟩
      exact ⟨p, List.mem_append_left _ hp, hep⟩
    · exact .inr ⟨(s, t), by simp, hf.mem_iff.mp (hnew e he).1⟩
  · rw [hpairs]
    intro e he
    rcases List.mem_append.mp he with he | he
    · obtain ⟨kids, hkids, hsources, htargets⟩ := h.copied e he
      rw [hkept e (List.mem_append_left _ he)]
      exact ⟨kids, fun y hy => List.mem_append_left _ (hkids hy), hsources, htargets⟩
    · obtain rfl := List.mem_singleton.mp he
      refine ⟨r.2, fun y hy => List.mem_append_right _ hy, hcopied.sources, ?_⟩
      rw [hcopied.children, h.waiting (s, t) List.mem_cons_self, List.nil_append]
  · intro e he
    rcases List.mem_append.mp he with he | he
    · rw [hkept e (List.mem_append_right _ he)]
      exact h.waiting e (List.mem_cons_of_mem _ he)
    · exact (hcopied.fresh e he).2

theorem run (hf : f.WellFormed) (hid : id < f.size) (h : Mirror f id g done queue) {k : Nat}
    (hk : done.length + k = f.size) : ∃ pairs, Mirror f id (copyBelow k queue g) pairs [] ∧
      ∀ x < g.size, (copyBelow k queue g).matter? x = g.matter? x ∧
        (copyBelow k queue g).parent? x = g.parent? x ∧
        (x ∉ queue.map Prod.snd → (copyBelow k queue g).childIds x = g.childIds x) := by
  induction k generalizing g done queue with
  | zero =>
    have hlt : ∀ c ∈ (done ++ queue).map Prod.fst, c < f.size := by
      intro c hc
      obtain ⟨e, he, rfl⟩ := List.mem_map.mp hc
      rcases h.hung e he with hroot | ⟨p, _, hp⟩
      · exact hroot ▸ hid
      · exact lt_of_parent? hp
    have hle := length_le_of_nodup_of_lt h.sources hlt
    rw [List.length_map, List.length_append] at hle
    obtain rfl : queue = [] := List.length_eq_zero_iff.mp (by omega)
    exact ⟨done, h, fun x _ => ⟨rfl, rfl, fun _ => rfl⟩⟩
  | succ k ih =>
    cases queue with
    | nil => exact ⟨done, h, fun x _ => ⟨rfl, rfl, fun _ => rfl⟩⟩
    | cons e queue =>
      obtain ⟨s, t⟩ := e
      have hids : g.childIds s = f.childIds s :=
        h.copying.old.childIds_eq (h.copying.source (s, t) List.mem_cons_self)
      obtain ⟨hstep, hcopied⟩ := h.step hf
      obtain ⟨pairs, hdone, hkept⟩ := ih hstep (by simpa [Nat.add_assoc, Nat.add_comm 1] using hk)
      simp only [copyBelow, hids]
      refine ⟨pairs, hdone, fun x hx => ?_⟩
      obtain ⟨hmatter, hparent, hchildren⟩ := hkept x (hcopied.size ▸ Nat.lt_add_right _ hx)
      obtain ⟨hmatter', hparent', hchildren'⟩ := hcopied.kept x hx
      refine ⟨hmatter.trans hmatter', hparent.trans hparent', fun hnot => ?_⟩
      rw [List.map_cons, List.mem_cons, not_or] at hnot
      refine (hchildren ?_).trans (hchildren' hnot.1)
      rw [List.map_append, List.mem_append, hcopied.targets, List.mem_range'_1]
      rintro (hq | ⟨hle, _⟩)
      · exact hnot.2 hq
      · exact absurd hx (Nat.not_lt.mpr hle)

end Mirror

/-- The tree below `copy` is the one below `id`, where `φ x` is the copy of `x`. -/
structure Mirrored (f : Forest) (id : NodeId) (g : Forest) (copy : NodeId) (φ : NodeId → NodeId) :
    Prop where
  root : φ id = copy
  fresh : ∀ x, f.Above id x → f.size ≤ φ x ∧ φ x < g.size
  injective : ∀ x y, f.Above id x → f.Above id y → φ x = φ y → x = y
  matter : ∀ x, f.Above id x → g.matter? (φ x) = f.matter? x
  children : ∀ x, f.Above id x → g.childIds (φ x) = (f.childIds x).map φ
  onto : ∀ y, g.Above copy y → ∃ x, f.Above id x ∧ φ x = y

theorem Mirror.mirrored {pairs : List (NodeId × NodeId)} (hf : f.WellFormed)
    (h : Mirror f id g pairs []) : ∃ φ, Mirrored f id g f.size φ := by
  have hroot := h.root
  have hbelow := h.below
  have hfresh := h.fresh
  have hmatter := h.matter
  have hsources := h.sources
  have htargets := h.targets
  have hcopied := h.copied
  simp only [List.append_nil] at hroot hbelow hfresh hmatter hsources htargets hcopied
  have hcover : ∀ x, f.Above id x → ∃ y, (x, y) ∈ pairs := by
    intro x hx
    induction hx using Relation.ReflTransGen.head_induction_on with
    | refl => exact ⟨f.size, hroot⟩
    | head hp _ ih =>
      obtain ⟨q, hq⟩ := ih
      obtain ⟨kids, hkids, hchildren, _⟩ := hcopied _ hq
      have hc := hf.mem_iff.mpr hp
      rw [← hchildren] at hc
      obtain ⟨e, he, rfl⟩ := List.mem_map.mp hc
      exact ⟨e.2, hkids he⟩
  choose! φ hφ using hcover
  have hpair : ∀ e ∈ pairs, e.2 = φ e.1 := fun e he =>
    congrArg Prod.snd (List.inj_on_of_nodup_map hsources he (hφ e.1 (hbelow e he)) rfl)
  have hchildren : ∀ x, f.Above id x → g.childIds (φ x) = (f.childIds x).map φ := by
    intro x hx
    obtain ⟨kids, hkids, hs, ht⟩ := hcopied _ (hφ x hx)
    rw [← hs, ← ht, List.map_map]
    exact List.map_congr_left fun e he => hpair e (hkids he)
  refine ⟨φ, (hpair _ hroot).symm, fun x hx => hfresh _ (hφ x hx), ?_,
    fun x hx => hmatter _ (hφ x hx), hchildren, ?_⟩
  · intro x y hx hy heq
    exact congrArg Prod.fst (List.inj_on_of_nodup_map htargets (hφ x hx) (hφ y hy) heq)
  · intro y hy
    induction hy using Relation.ReflTransGen.head_induction_on with
    | refl => exact ⟨id, .refl id, (hpair _ hroot).symm⟩
    | head hp _ ih =>
      obtain ⟨x, hx, rfl⟩ := ih
      have hc := h.copying.wellFormed.mem_iff.mpr hp
      rw [hchildren x hx] at hc
      obtain ⟨c, hmem, rfl⟩ := List.mem_map.mp hc
      exact ⟨c, hx.of_parent (hf.mem_iff.mp hmem), rfl⟩

theorem Copying.mirror (h : f.Copying g [(id, f.size)]) (hlt : f.size < g.size)
    (hmatter : g.matter? f.size = f.matter? id) (hids : g.childIds f.size = []) :
    Mirror f id g [] [(id, f.size)] where
  copying := h
  root := by simp
  sources := by simp
  targets := by simp
  below e he := by
    rw [List.mem_singleton.mp he]
    exact .refl id
  fresh e he := by
    rw [List.mem_singleton.mp he]
    exact ⟨Nat.le_refl _, hlt⟩
  matter e he := by
    rw [List.mem_singleton.mp he]
    exact hmatter
  hung e he := by
    rw [List.mem_singleton.mp he]
    exact .inl rfl
  copied e he := by cases he
  waiting e he := by
    rw [List.mem_singleton.mp he]
    exact hids

structure UnderDocumentCopy (f : Forest) (d : NodeId) (g : Forest) (x holder : NodeId) : Prop where
  parent : g.parent? x = some holder
  root : g.parent? holder = none
  only : g.childIds holder = [x]
  matter : g.matter? holder = f.matter? d

theorem copySubtree_spec (hf : f.WellFormed) (hn : f.get? id = some n) :
    (∃ φ, Mirrored f id (f.copySubtree id n) f.size φ) ∧
      ((∃ d, n.isDocument = false ∧ f.ownerDocument? id = some d ∧
          f.UnderDocumentCopy d (f.copySubtree id n) f.size (f.size + 1)) ∨
        (n.isDocument = true ∨ f.ownerDocument? id = none) ∧
          (f.copySubtree id n).parent? f.size = none) := by
  have hid := lt_of_get? hn
  have hsize : f.size < f.size + 1 := Nat.lt_succ_self _
  rcases f.copySubtree_cases id n with ⟨o, d, hdoc, ho, hd, hiso, hcopy⟩ | ⟨hfree, hcopy⟩
  · have hlt : f.size + 1 < (f.underCopy n d).size := by
      simp only [underCopy, size_attach, size_push]
      exact Nat.lt_succ_self _
    obtain ⟨hmatter, hmatter'⟩ := matter?_underCopy (f := f) (n := n) (d := d)
    obtain ⟨hparent, hparent'⟩ := f.parent?_underCopy n (d := d)
    obtain ⟨hids, hids'⟩ := f.childIds_underCopy n hiso
    have hmirror := (hf.copying_underCopy hn hiso).mirror (hsize.trans hlt)
      (hmatter.trans (matter?_of_get? hn).symm) hids
    obtain ⟨pairs, hdone, hkept⟩ := hmirror.run hf hid (k := f.size) (by simp)
    obtain ⟨hmatter'', hparent'', hids''⟩ := hkept (f.size + 1) hlt
    rw [hcopy]
    refine ⟨hdone.mirrored hf, .inl ⟨o, hdoc, ho, ?_, ?_, ?_, ?_⟩⟩
    · rw [(hkept f.size (hsize.trans hlt)).2.1, hparent]
    · rw [hparent'', hparent']
    · rw [hids'' (by simp), hids']
    · rw [hmatter'', hmatter', matter?_of_get? hd]
  · have hmirror := (hf.copying_push hn).mirror (by simp)
      (by rw [matter?_push, if_pos rfl, Node.matter_copy, matter?_of_get? hn])
      (childIds_push_self Node.childIds_copy)
    obtain ⟨pairs, hdone, hkept⟩ := hmirror.run hf hid (k := f.size) (by simp)
    rw [hcopy]
    refine ⟨hdone.mirrored hf, .inr ⟨hfree, ?_⟩⟩
    rw [(hkept f.size (by simp)).2.1, parent?_push, if_pos rfl]
    rfl

end Forest

end MarkupForest
