import MarkupForest.Proofs.Copying.OlderNodes

namespace MarkupForest

open Edit Forest

variable {α β σ : Type} {f g h : Forest} {p x id root wrapper : NodeId} {ids : List NodeId}
  {Q : α → Prop} {R : β → Prop}

namespace SiblingRead

def node : SiblingRead → NodeId
  | .index id | .next id | .previous id | .nextElement id | .previousElement id => id

end SiblingRead

namespace Restructuring

def nodes : Restructuring → List NodeId
  | .appendChild parent child | .prependChild parent child => [parent, child]
  | .appendChildren parent ids | .insertChildren parent _ ids => parent :: ids
  | .replaceWith id replacement => [id, replacement]
  | .insertBeside _ id sibling => [id, sibling]
  | .unwrap id | .remove id | .removeChildren id => [id]

end Restructuring

namespace MarkupEdit

def node : MarkupEdit → NodeId
  | .append id _ | .prepend id _ | .insertBeside _ id _ | .wrap id _ => id

end MarkupEdit

namespace Operation

def nodes : Operation → List NodeId
  | .ask _ | .createDocument _ _ _ | .createElement _ | .createText _ | .createComment _
  | .createData _ | .createDoctype _ | .readDocument _ _ _ => []
  | .look r => [r.node]
  | .readFragment _ context _ => context.toList
  | .restructure r => r.nodes
  | .insertMarkup m => [m.node]
  | .shallowClone id | .deepClone id | .cloneChildren id | .setOutputRules id _
  | .setAttribute id _ _ | .setBooleanAttribute id _ _ | .removeAttribute id _
  | .clearAttributes id | .reviseAttributes id _ | .setBaseUri id _ | .setUserData id _ _
  | .setSourceRange id _ _ => [id]

end Operation

/-- Runs of operations that are given no node below `k`. -/
inductive RunsOnNewer (k : Nat) : Forest → Forest → Prop
  | refl (f : Forest) : RunsOnNewer k f f
  | read {f g : Forest} (config : ReaderConfig) (markup : String) (context : Option NodeId)
      (base : String) :
      RunsOnNewer k f g → (∀ c ∈ context, k ≤ c) →
      RunsOnNewer k f ((readFragment config markup context base).after g)
  | call {f g : Forest} (resolve : Resolver) (reader : FragmentReader) (o : Operation) :
      RunsOnNewer k f g → (∀ x ∈ o.nodes, k ≤ x) →
      (∀ markup context base h, h.WellFormed → k ≤ h.size → (∀ c ∈ context, k ≤ c) →
        RunsOnNewer k h ((reader markup context base).after h)) →
      (∀ markup context base h ids h', h.WellFormed → k ≤ h.size → (∀ c ∈ context, k ≤ c) →
        reader markup context base h = .ok ids h' → ∀ c ∈ ids, k ≤ c) →
      RunsOnNewer k f ((o.run resolve reader).after g)
  | tour {f g : Forest} {σ : Type} (limit : Nat) (guide : Guide σ) (root : NodeId) (s : σ) :
      RunsOnNewer k f g → k ≤ root →
      (∀ e h s, k ≤ e.id → RunsOnNewer k h ((guide e).after h s)) →
      RunsOnNewer k f ((MarkupForest.tour limit guide root).after g s)

namespace Edit

abbrev LeavesOlder (f : Forest) (Q : α → Prop) (e : Edit α) : Prop :=
  Preserves (fun g => g.WellFormed ∧ f.Extends g) Q e

theorem Preserves.leavesOlder {e : Edit α} (he : Preserves f.Separated Q e) (hf : f.WellFormed)
    (hk : e.Safe) :
    LeavesOlder f Q e := by
  rintro g ⟨hg, hold⟩
  obtain ⟨hseparated, hanswer⟩ := he (hf.separated hg hold)
  exact ⟨⟨hk hg, hseparated.old⟩, hanswer⟩

theorem leavesOlder_create {n : Node} (hp : n.parent = none) (hn : n.childIds = []) :
    LeavesOlder f (fun _ => True) (create n) :=
  fun _ hg => ⟨⟨hg.1.push hp hn, hg.2.push n⟩, fun _ _ _ => trivial⟩

end Edit

theorem leavesOlder_readDocument {config : ReaderConfig} {markup base : String} :
    LeavesOlder f (fun _ => True) (readDocument config markup base) := by
  rintro g ⟨hg, hold⟩
  obtain ⟨hw, hext⟩ := hg.plant config markup base
  exact ⟨⟨hw, hold.trans hext⟩, fun _ _ _ => trivial⟩

theorem newer_readFragment {config : ReaderConfig} {markup base : String} {context : Option NodeId}
    (hg : g.WellFormed) (hrun : readFragment config markup context base g = .ok ids h) :
    ∀ c ∈ ids, g.size ≤ c := by
  by_cases hc : ∀ c ∈ context, c < g.size
  · rw [readFragment_ok config markup base hg hc] at hrun
    cases hrun
    exact fun c hmem => (hg.withFragment config context markup base).1.fresh hg hmem
  · obtain ⟨c, hmem, hlt⟩ : ∃ c ∈ context, ¬ c < g.size := by simpa using hc
    cases hmem
    rw [readFragment_missing (Nat.le_of_not_lt hlt)] at hrun
    cases hrun

theorem leavesOlder_readFragment {config : ReaderConfig} {markup base : String}
    {context : Option NodeId} :
    LeavesOlder f (fun ids => ∀ c ∈ ids, f.size ≤ c) (readFragment config markup context base) := by
  rintro g ⟨hg, hold⟩
  refine ⟨?_, fun ids h hrun c hmem => hold.size_le.trans (newer_readFragment hg hrun c hmem)⟩
  by_cases hc : ∀ c ∈ context, c < g.size
  · have hfragment := (hg.withFragment config context markup base).1
    rw [after_ok (readFragment_ok config markup base hg hc)]
    exact ⟨hfragment.wellFormed, hold.trans hfragment.old⟩
  · obtain ⟨c, hmem, hlt⟩ : ∃ c ∈ context, ¬ c < g.size := by simpa using hc
    cases hmem
    rw [after_error (readFragment_missing (Nat.le_of_not_lt hlt))]
    exact ⟨hg, hold⟩

theorem leavesOlder_deepClone : LeavesOlder f (fun _ => True) (deepClone id) := by
  rintro g ⟨hg, hold⟩
  refine ⟨?_, fun _ _ _ => trivial⟩
  by_cases hid : id < g.size
  · obtain ⟨n, hn, hfind⟩ := find_of_lt hid
    obtain ⟨hext, hw⟩ := hg.copySubtree hn
    rw [after_ok (deepClone_ok hfind)]
    exact ⟨hw, hold.trans hext⟩
  · rw [after_error (deepClone_error (find_of_size_le (Nat.le_of_not_lt hid)))]
    exact ⟨hg, hold⟩

section Operations

variable (hf : f.WellFormed)

theorem separates_siblingRead (r : SiblingRead) (hr : f.size ≤ r.node) : Separates f r.run := by
  cases r with
  | index id => exact (separates_siblingIndex hr).map
  | _ =>
    refine Preserves.map ((preserves_parent hr).bind fun q _ => ?_)
    cases q with
    | none => exact .pure trivial
    | some p =>
      exact (separates_siblingIndex hr).bind fun i _ => Preserves.get.bind fun g _ => .pure trivial

theorem separates_restructuring (r : Restructuring) (hr : ∀ y ∈ r.nodes, f.size ≤ y) :
    Separates f r.run := by
  have hdone : ∀ {e : Edit Unit}, Separates f e → Separates f (silently e) := fun he => he.map
  cases r with
  | appendChild parent child =>
    exact hdone (separates_appendChild (hr parent (by simp [Restructuring.nodes]))
      (hr child (by simp [Restructuring.nodes])))
  | appendChildren parent ids =>
    exact hdone (separates_appendChildren (hr parent List.mem_cons_self)
      fun c hc => hr c (List.mem_cons_of_mem parent hc))
  | prependChild parent child =>
    exact hdone (separates_prependChild (hr parent (by simp [Restructuring.nodes]))
      (hr child (by simp [Restructuring.nodes])))
  | insertChildren parent index ids =>
    exact hdone (separates_insertChildren (hr parent List.mem_cons_self)
      fun c hc => hr c (List.mem_cons_of_mem parent hc))
  | replaceWith id replacement =>
    exact hdone (separates_replaceWith (hr id (by simp [Restructuring.nodes]))
      (hr replacement (by simp [Restructuring.nodes])))
  | insertBeside side id sibling =>
    exact hdone (separates_insertBeside (hr id (by simp [Restructuring.nodes]))
      (hr sibling (by simp [Restructuring.nodes])))
  | unwrap id => exact (separates_unwrap (hr id List.mem_cons_self)).map
  | remove id => exact hdone (separates_remove (hr id List.mem_cons_self))
  | removeChildren id => exact hdone (separates_removeChildren (hr id List.mem_cons_self))

theorem separates_placeRemainders {last : NodeId} (hlast : f.size ≤ last)
    (hids : ∀ c ∈ ids, f.size ≤ c) : Separates f (placeRemainders wrapper last ids) := by
  induction ids generalizing last with
  | nil => exact .pure trivial
  | cons r rs ih =>
    have hr : f.size ≤ r := hids r List.mem_cons_self
    have hrs : ∀ c ∈ rs, f.size ≤ c := fun c hc => hids c (List.mem_cons_of_mem r hc)
    refine (separates_remove hr).bind fun _ _ => Preserves.get.bind fun g _ => ?_
    split
    · exact (separates_insertBeside hlast hr).bind fun _ _ => ih hr hrs
    · exact ih hlast hrs

theorem separates_wrapIn {parent : Option NodeId} (hid : f.size ≤ id)
    (hparent : ∀ p ∈ parent, f.size ≤ p) (hids : ∀ c ∈ ids, f.size ≤ c) :
    Separates f (wrapIn id parent ids) := by
  cases ids with
  | nil => exact .pure trivial
  | cons wrapper rest =>
    have hw : f.size ≤ wrapper := hids wrapper List.mem_cons_self
    refine Preserves.get.bind fun g _ => ?_
    split
    · exact .pure trivial
    · refine (Preserves.ask (Q := fun c => f.size ≤ c) fun _ _ hg h => hg.deepChild hw h).bind
        fun innermost hin => ?_
      have hplace : Separates f (do
          appendChild innermost id
          placeRemainders wrapper wrapper rest
          return id : Edit NodeId) :=
        (separates_appendChild hin hid).bind fun _ _ =>
          (separates_placeRemainders hw fun c hc => hids c (List.mem_cons_of_mem wrapper hc)).bind
            fun _ _ => .pure trivial
      cases parent with
      | none => exact (separates_remove hw).bind fun _ _ => hplace
      | some p => exact (separates_replaceChild (hparent p rfl) hid hw).bind fun _ _ => hplace

section Reader

variable {reader : FragmentReader} (hr : ∀ markup context base, (∀ c ∈ context, f.size ≤ c) →
    LeavesOlder f (fun ids => ∀ c ∈ ids, f.size ≤ c) (reader markup context base))
include hr

theorem leavesOlder_readChildrenOf {markup : String} (hp : f.size ≤ p) :
    LeavesOlder f (fun ids => ∀ c ∈ ids, f.size ≤ c) (readChildrenOf reader p markup) :=
  .ask_bind fun _ => .ask_bind fun _ => hr _ _ _ (by simpa using hp)

include hf

theorem leavesOlder_wrap {markup : String} (hid : f.size ≤ id) :
    LeavesOlder f (fun _ => True) (wrap reader id markup) := by
  have hread : LeavesOlder f (fun _ => True) (do
      let parent ← Edit.ask (·.parent id)
      let ids ← reader markup (some (parent.getD id)) (← Edit.ask (·.baseUri id))
      wrapIn id parent ids : Edit NodeId) := by
    refine ((preserves_parent hid).leavesOlder hf Safe.ask).bind fun q hq => .ask_bind fun _ => ?_
    refine (hr _ _ _ ?_).bind fun ids hids =>
      (separates_wrapIn hid hq hids).leavesOlder hf safe_wrapIn
    cases q with
    | none => simpa using hid
    | some p => simpa using hq p rfl
  unfold wrap
  split
  · exact Preserves.throw.bind (Q := fun _ => True) fun _ _ => hread
  · exact hread

theorem leavesOlder_markupEdit (m : MarkupEdit) (hm : f.size ≤ m.node) :
    LeavesOlder f (fun _ => True) (m.run reader) := by
  cases m with
  | append parent markup =>
    refine Preserves.map ((leavesOlder_readChildrenOf hr hm).bind fun ids hids => ?_)
    exact .ask_bind fun _ => (separates_insertAll hm hids).leavesOlder hf safe_insertAll
  | prepend parent markup =>
    refine Preserves.map ((leavesOlder_readChildrenOf hr hm).bind fun ids hids => ?_)
    exact (separates_insertAll hm hids).leavesOlder hf safe_insertAll
  | insertBeside side id markup =>
    refine Preserves.map (((preserves_checkParent hm).leavesOlder hf Safe.ask).bind fun p hp => ?_)
    refine .ask_bind fun _ => (hr _ _ _ (by simpa using hp)).bind fun ids hids => ?_
    exact ((separates_siblingIndex hm).leavesOlder hf safe_siblingIndex).bind fun _ _ =>
      (separates_insertAll hp hids).leavesOlder hf safe_insertAll
  | wrap id markup => exact (leavesOlder_wrap hf hr hm).map

theorem leavesOlder_operation {resolve : Resolver} (o : Operation)
    (ho : ∀ y ∈ o.nodes, f.size ≤ y) :
    LeavesOlder f (fun _ => True) (o.run resolve reader) := by
  -- where no reader is called, any will do
  have hk : ∀ o : Operation, (o.run resolve (readFragment .html)).Safe :=
    safe_operation fun _ _ _ => safe_readFragment
  have hnode : ∀ {y}, o.nodes = [y] → f.size ≤ y := fun h => ho _ (h ▸ List.mem_cons_self)
  cases o with
  | ask q => exact .ask fun _ _ _ _ => trivial
  | look r => exact (separates_siblingRead r (hnode rfl)).leavesOlder hf (hk (.look r))
  | createDocument cases output base => exact (leavesOlder_create rfl rfl).map
  | createElement tag => exact (leavesOlder_create rfl rfl).map
  | createText s => exact (leavesOlder_create rfl rfl).map
  | createComment s => exact (leavesOlder_create rfl rfl).map
  | createData s => exact (leavesOlder_create rfl rfl).map
  | createDoctype d => exact (leavesOlder_create rfl rfl).map
  | readDocument config markup base => exact leavesOlder_readDocument.map
  | readFragment markup context base =>
    refine (hr markup context base fun c hc => ho c ?_).any.map
    rw [Operation.nodes, hc]
    exact List.mem_cons_self
  | restructure r => exact (separates_restructuring r ho).leavesOlder hf (hk (.restructure r))
  | insertMarkup m => exact leavesOlder_markupEdit hf hr m (hnode rfl)
  | shallowClone id =>
    exact (Preserves.ask_bind fun n => leavesOlder_create rfl Node.childIds_copy).map
  | deepClone id => exact leavesOlder_deepClone.map
  | cloneChildren id =>
    exact (Preserves.ask_bind fun ids => .mapM fun _ _ => leavesOlder_deepClone).map
  | setOutputRules id output =>
    exact (separates_setOutputRules (hnode rfl)).map.leavesOlder hf (hk (.setOutputRules id output))
  | setAttribute id key value =>
    exact (separates_setAttribute (hnode rfl)).map.leavesOlder hf (hk (.setAttribute id key value))
  | setBooleanAttribute id key on =>
    exact (separates_setBooleanAttribute (hnode rfl)).map.leavesOlder hf
      (hk (.setBooleanAttribute id key on))
  | removeAttribute id key =>
    exact (separates_removeAttribute (hnode rfl)).map.leavesOlder hf (hk (.removeAttribute id key))
  | clearAttributes id =>
    exact (separates_clearAttributes (hnode rfl)).map.leavesOlder hf (hk (.clearAttributes id))
  | reviseAttributes id change =>
    have hrevise : Separates f ((Operation.reviseAttributes id change).run resolve reader) :=
      (separates_openAttributes (hnode rfl)).bind fun _ _ =>
        (separates_changeAttributes (hnode rfl)).bind fun _ _ => .pure trivial
    exact hrevise.leavesOlder hf (hk (.reviseAttributes id change))
  | setBaseUri id base =>
    exact (separates_setBaseUri (hnode rfl)).map.leavesOlder hf (hk (.setBaseUri id base))
  | setUserData id key value =>
    exact (separates_setUserData (hnode rfl)).map.leavesOlder hf (hk (.setUserData id key value))
  | setSourceRange id start stop =>
    exact (separates_setSourceRange (hnode rfl)).map.leavesOlder hf
      (hk (.setSourceRange id start stop))

end Reader

end Operations

namespace Guided

variable {P : Forest → Prop} {w : Guided σ α} {k : α → Guided σ β}

def Preserves (P : Forest → Prop) (Q : α → Prop) (w : Guided σ α) : Prop :=
  ∀ ⦃g⦄ (s : σ), P g → P (w.after g s) ∧ ∀ a t, w (g, s) = .ok a t → Q a

theorem Preserves.bind (hw : Preserves P Q w) (hk : ∀ a, Q a → Preserves P R (k a)) :
    Preserves P R (w >>= k) := by
  intro g s hg
  obtain ⟨hafter, hanswer⟩ := hw s hg
  cases hrun : w (g, s) with
  | ok a t =>
    rw [Guided.after, hrun] at hafter
    rw [Guided.after, bind_ok hrun]
    exact hk a (hanswer a t hrun) t.2 hafter
  | error y t =>
    rw [Guided.after, hrun] at hafter
    rw [Guided.after, bind_error hrun]
    exact ⟨hafter, fun _ _ h => by cases h⟩

theorem Preserves.pure {a : α} (ha : Q a) : Preserves P Q (pure a : Guided σ α) :=
  fun _ _ hg => ⟨hg, fun _ _ h => by cases h; exact ha⟩

theorem Preserves.guided {e : Edit α} (he : Edit.Preserves P Q e) :
    Preserves P Q (e.guided : Guided σ α) := by
  intro g s hg
  obtain ⟨hafter, hanswer⟩ := he hg
  rw [after_guided]
  refine ⟨hafter, fun a t h => ?_⟩
  obtain ⟨k, hrun, _⟩ := ok_of_edit h
  exact hanswer a k hrun

end Guided

namespace Tour

variable {depth : Nat}

def Newer (k : Nat) (t : Tour) : Prop :=
  k ≤ t.root ∧ match t.stage with
    | .entering id _ | .leaving id _ => k ≤ id
    | .finished => True

theorem preserves_below (hroot : f.size ≤ root) (hid : f.size ≤ id) :
    Preserves f.Separated (Newer f.size) (below root id depth) := by
  refine (Preserves.ask fun _ _ hg h => hg.firstChild hid h).bind fun q hq => ?_
  cases q with
  | none => exact .pure ⟨hroot, hid⟩
  | some c => exact .pure ⟨hroot, hq c rfl⟩

theorem preserves_note (hid : f.size ≤ id) : Preserves f.Separated
    (fun n => (∀ p ∈ n.parent, f.size ≤ p) ∧ ∀ c ∈ n.next, f.size ≤ c) (note id) := by
  refine (preserves_parent hid).bind fun q hq => ?_
  cases q with
  | none => exact (preserves_nextSibling hid).bind fun next hnext => .pure ⟨hq, hnext⟩
  | some p =>
    exact .ask_bind fun _ => (preserves_nextSibling hid).bind fun next hnext => .pure ⟨hq, hnext⟩

theorem preserves_afterEntering {n : Note} (hroot : f.size ≤ root) (hid : f.size ≤ id)
    (hparent : ∀ p ∈ n.parent, f.size ≤ p) (hnext : ∀ c ∈ n.next, f.size ≤ c) :
    Preserves f.Separated (Newer f.size) (afterEntering root id depth n) := by
  unfold afterEntering
  split
  · exact preserves_below hroot hid
  · next p hp =>
    refine .ask_bind fun q => ?_
    split
    · exact preserves_below hroot hid
    · refine .ask_bind fun count => ?_
      split
      · refine .ask_bind fun m => (Preserves.ask fun _ _ hg h => hg.child (hparent p hp) h).bind
          fun c hc => preserves_below ?_ hc
        split
        · exact hc
        · exact hroot
      · split
        · exact .pure ⟨hroot, trivial⟩
        · split
          · next c hc => exact .pure ⟨hroot, hnext c hc⟩
          · exact .pure ⟨hroot, hparent p hp⟩
          · exact .throw

theorem preserves_afterLeaving (hroot : f.size ≤ root) (hid : f.size ≤ id) :
    Preserves f.Separated (Newer f.size) (afterLeaving root id depth) := by
  unfold afterLeaving
  split
  · exact .pure ⟨hroot, trivial⟩
  · refine (preserves_nextSibling hid).bind fun next hnext => ?_
    cases next with
    | some next => exact .pure ⟨hroot, hnext next rfl⟩
    | none =>
      refine (preserves_parent hid).bind fun q hq => ?_
      split
      · next p d => exact .pure ⟨hroot, hq p rfl⟩
      · exact .pure ⟨hroot, trivial⟩

variable {guide : Guide σ} (hf : f.WellFormed)
  (hg : ∀ e : Event, f.size ≤ e.id →
    Guided.Preserves (fun g => g.WellFormed ∧ f.Extends g) (fun _ => True) (guide e))
include hf hg

theorem leavesOlder_step {t : Tour} (ht : Newer f.size t) :
    Guided.Preserves (fun g => g.WellFormed ∧ f.Extends g) (Newer f.size) (step guide t) := by
  obtain ⟨root, stage⟩ := t
  obtain ⟨hroot, hstage⟩ := ht
  cases stage with
  | entering id depth =>
    exact (Guided.Preserves.guided
      ((preserves_note hstage).leavesOlder hf safe_note)).bind fun n hn =>
      (hg (.enter id depth) hstage).bind fun _ _ =>
        .guided ((preserves_afterEntering hroot hstage hn.1 hn.2).leavesOlder hf safe_afterEntering)
  | leaving id depth =>
    exact (hg (.leave id depth) hstage).bind fun _ _ =>
      .guided ((preserves_afterLeaving hroot hstage).leavesOlder hf safe_afterLeaving)
  | finished => exact .pure ⟨hroot, trivial⟩

theorem leavesOlder_run (n : Nat) {t : Tour} (ht : Newer f.size t) :
    Guided.Preserves (fun g => g.WellFormed ∧ f.Extends g) (Newer f.size) (run guide n t) := by
  induction n generalizing t with
  | zero => exact .pure ht
  | succ n ih =>
    unfold run
    split
    · exact .pure ht
    · exact (leavesOlder_step hf hg ht).bind fun next hnext => ih hnext

end Tour

theorem RunsOnNewer.leavesOlder (hp : RunsOnNewer f.size g h) (hf : f.WellFormed)
    (hg : g.WellFormed)
    (hold : f.Extends g) : h.WellFormed ∧ f.Extends h := by
  induction hp with
  | refl _ => exact ⟨hg, hold⟩
  | read config markup context base _ _ ih => exact (leavesOlder_readFragment (ih hg hold)).1
  | call resolve reader o _ ho _ hanswers ih ihr =>
    refine (leavesOlder_operation hf (fun markup context base hc k hk => ?_) o ho (ih hg hold)).1
    have hsize := hk.2.size_le
    exact ⟨ihr markup context base k hk.1 hsize hc hk.1 hk.2,
      fun ids k' hrun => hanswers markup context base k ids k' hk.1 hsize hc hrun⟩
  | tour limit guide root s _ hroot _ ih ihg =>
    refine (Tour.leavesOlder_run hf (fun e he k s hk => ?_) limit (t := .start root)
      ⟨hroot, hroot⟩ s
      (ih hg hold)).1
    exact ⟨ihg e k s he hk.1 hk.2, fun _ _ _ => trivial⟩

theorem runsOnNewer_operation {k : Nat} (resolve : Resolver) (config : ReaderConfig) (o : Operation)
    (ho : ∀ y ∈ o.nodes, k ≤ y) : RunsOnNewer k g ((o.run resolve (readFragment config)).after g) :=
  .call _ _ o (.refl g) ho
    (fun markup context base h _ _ hc => .read config markup context base (.refl h) hc)
    fun _ _ _ _ _ _ hw hk _ hrun c hc => hk.trans (newer_readFragment hw hrun c hc)

end MarkupForest
