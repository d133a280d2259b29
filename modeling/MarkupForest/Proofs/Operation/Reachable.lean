import MarkupForest.Proofs.Edit.Safety
import MarkupForest.Url.Resolve

namespace MarkupForest

open Edit Forest

variable {σ α β : Type} {f g h : Forest} {id x : NodeId}

def Guided.after (w : Guided σ α) (f : Forest) (s : σ) : Forest :=
  match w (f, s) with
  | .ok _ (g, _) | .error _ (g, _) => g

inductive Reaches : Forest → Forest → Prop
  | refl (f : Forest) : Reaches f f
  | read {f g : Forest} (config : ReaderConfig) (markup : String) (context : Option NodeId)
      (base : String) :
      Reaches f g → Reaches f ((readFragment config markup context base).after g)
  | call {f g : Forest} (resolve : Resolver) (reader : FragmentReader) (o : Operation) :
      Reaches f g →
      (∀ markup context base k, Reaches k ((reader markup context base).after k)) →
      Reaches f ((o.run resolve reader).after g)
  | tour {f g : Forest} {σ : Type} (limit : Nat) (guide : Guide σ) (root : NodeId) (s : σ) :
      Reaches f g →
      (∀ e k s, Reaches k ((guide e).after k s)) →
      Reaches f ((MarkupForest.tour limit guide root).after g s)

def Reachable (f : Forest) : Prop := Reaches .empty f

def runAll (resolve : Resolver) (reader : FragmentReader) (os : List Operation) (f : Forest) :
    Forest :=
  os.foldl (fun f o => (o.run resolve reader).after f) f

theorem Reaches.trans (hfg : Reaches f g) (hgh : Reaches g h) : Reaches f h := by
  induction hgh with
  | refl _ => exact hfg
  | read config markup context base _ ih => exact .read config markup context base (ih hfg)
  | call resolve reader o _ hr ih => exact .call resolve reader o (ih hfg) hr
  | tour limit guide root s _ hg ih => exact .tour limit guide root s (ih hfg) hg

theorem safe_setOutputRules {output : OutputRules} : (setOutputRules id output).Safe := by
  intro f hf
  by_cases hid : id < f.size
  · obtain ⟨n, hn, hfind⟩ := find_of_lt hid
    cases hbody : n.body with
    | document cases _ inner =>
      have hrun : setOutputRules id output f = .ok ()
          (f.modify id fun n => { n with body := .document cases output inner }) := by
        rw [setOutputRules, bind_ok (ask_ok hfind), hbody]
        rfl
      rw [after_ok hrun]
      refine hf.of_views (fun y => parent?_modify fun _ => rfl) (fun y => ?_)
        fun y => index?_modify fun _ => rfl
      unfold childList?
      rw [get?_modify]
      by_cases hy : id = y
      · subst hy
        simp [hn, hbody, Body.container?]
      · rw [if_neg hy]
    | _ =>
      have hrun : setOutputRules id output f = .error (.notDocument n.body.kind) f := by
        rw [setOutputRules, bind_ok (ask_ok hfind), hbody]
        rfl
      rwa [after_error hrun]
  · have hrun : setOutputRules id output f = .error (.noSuchNode id) f := by
      rw [setOutputRules, bind_error (ask_error (find_of_size_le (Nat.le_of_not_lt hid)))]
    rwa [after_error hrun]

theorem safe_changeAttributes {u : Attributes → Attributes} :
    (modify (·.changeAttributes id u) : Edit Unit).Safe :=
  Safe.modify fun _ hf => hf.sameLinks sameLinks_mapAttributes

theorem safe_changeExisting {u : Attributes → Attributes} :
    (modify (·.changeExisting id u) : Edit Unit).Safe :=
  Safe.modify fun _ hf => hf.sameLinks sameLinks_mapAttributes

theorem safe_deepClone : (deepClone id).Safe := by
  intro f hf
  by_cases hid : id < f.size
  · obtain ⟨n, hn, hfind⟩ := find_of_lt hid
    rw [after_ok (deepClone_ok hfind)]
    exact (hf.copySubtree hn).2
  · rwa [after_error (deepClone_error (find_of_size_le (Nat.le_of_not_lt hid)))]

theorem safe_operation {resolve : Resolver} {reader : FragmentReader}
    (hr : ∀ markup context base, (reader markup context base).Safe) (o : Operation) :
    (o.run resolve reader).Safe := by
  cases o with
  | ask q => exact Safe.ask
  | look r => exact safe_siblingRead r
  | createDocument cases output base => exact (Safe.create rfl rfl).map
  | createElement tag => exact (Safe.create rfl rfl).map
  | createText s => exact (Safe.create rfl rfl).map
  | createComment s => exact (Safe.create rfl rfl).map
  | createData s => exact (Safe.create rfl rfl).map
  | createDoctype d => exact (Safe.create rfl rfl).map
  | readDocument config markup base => exact Safe.map fun f hf => (hf.plant config markup base).1
  | readFragment markup context base => exact (hr markup context base).map
  | restructure r => exact safe_restructuring r
  | insertMarkup m => exact safe_markupEdit hr m
  | shallowClone id => exact (Safe.ask.bind fun n => Safe.create rfl Node.childIds_copy).map
  | deepClone id => exact safe_deepClone.map
  | cloneChildren id =>
    exact (Safe.ask.bind fun ids => Safe.mapM (fun _ => safe_deepClone) ids).map
  | setOutputRules id output => exact safe_setOutputRules.map
  | setAttribute id key value =>
    exact (Safe.ask.bind fun _ => Safe.ask.bind fun _ => safe_changeAttributes).map
  | setBooleanAttribute id key on =>
    exact (Safe.ask.bind fun _ => Safe.ask.bind fun _ => safe_changeAttributes).map
  | removeAttribute id key =>
    refine Safe.map ?_
    unfold removeAttribute
    split
    · exact Safe.pure
    · exact Safe.ask.bind fun _ => safe_changeExisting
  | clearAttributes id => exact (Safe.ask.bind fun _ => safe_changeExisting).map
  | reviseAttributes id change =>
    have hopen : (openAttributes id).Safe :=
      Safe.ask.bind fun _ => safe_changeAttributes.bind fun _ => Safe.ask.bind fun _ => Safe.pure
    exact hopen.bind fun _ => safe_changeAttributes.bind fun _ => Safe.pure
  | setBaseUri id base =>
    refine Safe.map (Safe.ask.bind fun n => ?_)
    split
    · exact safe_changeAttributes
    · exact Safe.pure
  | setUserData id key value =>
    refine Safe.map (Safe.ask.bind fun as => ?_)
    split
    · exact Safe.pure
    · exact Safe.ask.bind fun _ => safe_changeAttributes
  | setSourceRange id start stop =>
    exact (Safe.ask.bind fun _ => Safe.modify fun _ hf => hf.sameLinks sameLinks_setRanges).map

namespace Guided

def Safe (w : Guided σ α) : Prop := ∀ ⦃f⦄ (s : σ), f.WellFormed → (w.after f s).WellFormed

theorem Safe.bind {w : Guided σ α} {k : α → Guided σ β} (hw : w.Safe) (hk : ∀ a, (k a).Safe) :
    Safe (w >>= k) := by
  intro f s hf
  have hg := hw s hf
  cases hrun : w (f, s) with
  | ok a t =>
    rw [after, hrun] at hg
    rw [after, bind_ok hrun]
    exact hk a t.2 hg
  | error x t =>
    rw [after, hrun] at hg
    rwa [after, bind_error hrun]

theorem Safe.pure {a : α} : Safe (pure a : Guided σ α) := fun _ _ hf => hf

section Edits

variable {e : Edit α} {s : σ} {a : α} {y : TreeError} {r : Forest × σ}

theorem of_edit (h : e f = .ok a g) : e.guided (f, s) = .ok a (g, s) := by
  rw [Edit.guided, h]

theorem ok_of_edit (h : e.guided (f, s) = .ok a r) : ∃ g, e f = .ok a g ∧ r = (g, s) := by
  unfold Edit.guided at h
  cases he : e f with
  | ok b g =>
    simp only [he] at h
    cases h
    exact ⟨g, rfl, rfl⟩
  | error z g =>
    simp only [he] at h
    cases h

theorem error_of_edit (h : e.guided (f, s) = .error y r) : ∃ g, e f = .error y g ∧ r = (g, s) := by
  unfold Edit.guided at h
  cases he : e f with
  | ok b g =>
    simp only [he] at h
    cases h
  | error z g =>
    simp only [he] at h
    cases h
    exact ⟨g, rfl, rfl⟩

end Edits

end Guided

theorem Edit.after_guided {e : Edit α} {s : σ} : (e.guided : Guided σ α).after f s = e.after f := by
  unfold Guided.after Edit.guided Edit.after
  cases hrun : e f <;> simp [hrun]

theorem Edit.Safe.guided {e : Edit α} (he : e.Safe) : (e.guided : Guided σ α).Safe := by
  intro f s hf
  rw [after_guided]
  exact he hf

namespace Tour

theorem safe_nextSibling : (nextSibling id).Safe :=
  Safe.ask.bind fun p => by
    cases p with
    | none => exact Safe.pure
    | some p => exact safe_siblingIndex.bind fun _ => Safe.get.bind fun _ => Safe.pure

theorem safe_below {root : NodeId} {depth : Nat} : (below root id depth).Safe :=
  Safe.ask.bind fun c => by
    cases c with
    | none => exact Safe.pure
    | some c => exact Safe.pure

theorem safe_note : (note id).Safe :=
  Safe.ask.bind fun p => by
    cases p with
    | none => exact safe_nextSibling.bind fun _ => Safe.pure
    | some p => exact Safe.ask.bind fun _ => safe_nextSibling.bind fun _ => Safe.pure

theorem safe_afterEntering {root : NodeId} {depth : Nat} {n : Note} :
    (afterEntering root id depth n).Safe := by
  unfold afterEntering
  split
  · exact safe_below
  · refine Safe.ask.bind fun q => ?_
    split
    · exact safe_below
    · refine Safe.ask.bind fun count => ?_
      split
      · exact Safe.ask.bind fun m => Safe.ask.bind fun c => safe_below
      · split
        · exact Safe.pure
        · split
          · exact Safe.pure
          · exact Safe.pure
          · exact Safe.throw

theorem safe_afterLeaving {root : NodeId} {depth : Nat} : (afterLeaving root id depth).Safe := by
  unfold afterLeaving
  split
  · exact Safe.pure
  · refine safe_nextSibling.bind fun next => ?_
    cases next with
    | some next => exact Safe.pure
    | none =>
      refine Safe.ask.bind fun p => ?_
      split
      · exact Safe.pure
      · exact Safe.pure

variable {guide : Guide σ} (hg : ∀ e, (guide e).Safe)
include hg

theorem safe_step (t : Tour) : (step guide t).Safe := by
  unfold step
  split
  · exact safe_note.guided.bind fun _ => (hg _).bind fun _ => safe_afterEntering.guided
  · exact (hg _).bind fun _ => safe_afterLeaving.guided
  · exact Guided.Safe.pure

theorem safe_run (n : Nat) (t : Tour) : (run guide n t).Safe := by
  induction n generalizing t with
  | zero => exact Guided.Safe.pure
  | succ n ih =>
    unfold run
    split
    · exact Guided.Safe.pure
    · exact (safe_step hg t).bind fun next => ih next

end Tour

theorem Reaches.wellFormed (h : Reaches f g) : f.WellFormed → g.WellFormed := by
  induction h with
  | refl _ => exact id
  | read config markup context base _ ih => exact fun hf => safe_readFragment (ih hf)
  | call resolve reader o _ _ ih ihr =>
    exact fun hf => safe_operation (fun markup context base k hk => ihr markup context base k hk) o
      (ih hf)
  | tour limit guide root s _ _ ih ihg =>
    exact fun hf => Tour.safe_run (fun e k s hk => ihg e k s hk) limit (.start root) s (ih hf)

theorem Reachable.wellFormed (h : Reachable f) : f.WellFormed :=
  Reaches.wellFormed h wellFormed_empty

theorem Forest.kind_of_childList? {p : NodeId} (h : (f.childList? p).isSome) :
    ∃ n, f.get? p = some n ∧ (n.kind = .document ∨ n.kind = .element) := by
  obtain ⟨l, hl⟩ := Option.isSome_iff_exists.mp h
  obtain ⟨n, hn⟩ := exists_get? (lt_of_childList? hl)
  refine ⟨n, hn, ?_⟩
  cases n with
  | mk body =>
    cases body with
    | document cases output c => exact .inl rfl
    | element tag c => exact .inr rfl
    | _ => simp [childList?, hn, Body.container?] at hl

theorem reachable_trees (h : Reachable f) :
    (∀ c p, f.parent? c = some p ↔ c ∈ f.childIds p) ∧
    (∀ p, (f.childIds p).Nodup ∧ ∀ c ∈ f.childIds p, c < f.size) ∧
    (∀ p, (f.childList? p).isSome →
      ∃ n, f.get? p = some n ∧ (n.kind = .document ∨ n.kind = .element)) ∧
    ∀ x < f.size, ∃ way top, f.Ascent x way ∧ way.Nodup ∧ way.getLast? = some top ∧
      f.parent? top = none ∧ f.root x = .ok top ∧
      f.ownerDocument x = .ok (way.find? f.isDocument) ∧
      f.baseUri x = .ok ((way.findSome? f.ownBase?).getD "") := by
  have hf := h.wellFormed
  refine ⟨fun c p => hf.mem_iff.symm, fun p => ⟨hf.nodup p, fun c hc => hf.lt_of_mem hc⟩,
    fun p hp => kind_of_childList? hp, fun x hx => ?_⟩
  have hway := hf.ascent_lineage x
  obtain ⟨top, hlast, htop⟩ := hway.getLast?_eq
  obtain ⟨n, _, hfind⟩ := find_of_lt hx
  refine ⟨f.lineage x, top, hway, hway.nodup hf.acyclic, hlast, htop, ?_, ?_, ?_⟩
  · rw [root, hfind, List.getLastD_eq_getLast?, hlast]
    rfl
  · rw [ownerDocument, hfind]
    rfl
  · rw [baseUri, hfind]
    rfl

theorem reaches_operation (resolve : Resolver) (config : ReaderConfig) (o : Operation) :
    Reaches f ((o.run resolve (readFragment config)).after f) :=
  .call _ _ o (.refl f) fun markup context base k => .read config markup context base (.refl k)

theorem reaches_runAll {resolve : Resolver} {config : ReaderConfig} (os : List Operation) :
    Reaches f (runAll resolve (readFragment config) os f) := by
  induction os generalizing f with
  | nil => exact .refl f
  | cons o os ih => exact (reaches_operation resolve config o).trans ih

def hungPair : Forest :=
  runAll Url.resolve (readFragment .html) [.createElement "ul", .createElement "li",
    .restructure (.appendChild 0 1), .restructure (.appendChild 1 0)] .empty

theorem reachable_trees_hungPair :
    Reachable hungPair ∧ hungPair.parent? 1 = some 0 ∧ 1 ∈ hungPair.childIds 0 := by
  have h : Reachable hungPair := reaches_runAll _
  have hp : hungPair.parent? 1 = some 0 := by decide
  exact ⟨h, hp, ((reachable_trees h).1 1 0).mp hp⟩

end MarkupForest
