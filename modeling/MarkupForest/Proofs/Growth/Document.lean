import MarkupForest.Proofs.Edit.InsertChildren
import MarkupForest.Proofs.Outline.Append
import MarkupForest.Proofs.Outline.Growth
import Mathlib.Data.List.TakeWhile

namespace MarkupForest

open Edit Forest

variable {f g : Forest} {m : Manner} {id x base : NodeId} {body : Body} {span : Span} {t : Token}
  {tag : String} {opened : List (NodeId × String)} {o : Outline}

namespace Token

def body? (m : Manner) : Token → Option Body
  | .startTag name as _ _ => some (.element (m.cases.tagName name)
      ⟨none, if as = [] then none else some (Growth.attributesOf m as)⟩)
  | .endTag _ _ => none
  | .text s _ => some (.text s)
  | .rawText s _ => some (.data s)
  | .comment s _ => some (.comment s)
  | .doctype d _ => some (.doctype { d with name := m.cases.tagName d.name })

def nodeCount (m : Manner) (ts : List Token) : Nat := ts.countP fun t => (t.body? m).isSome

def closeNearest (tag : String) (opened : List (NodeId × String)) : List (NodeId × String) :=
  match opened.findIdx? (·.2 == tag) with
  | some i => opened.drop (i + 1)
  | none => opened

example : closeNearest "p" [(3, "b"), (2, "p"), (1, "p")] = [(1, "p")] ∧
    closeNearest "i" [(3, "b"), (2, "p")] = [(3, "b"), (2, "p")] := by decide

def follow (m : Manner) (s : Nat × List (NodeId × String)) : Token → Nat × List (NodeId × String)
  | .startTag name _ selfClosing _ => (s.1 + 1,
      if selfClosing || (m.dialect == .html && Tag.isVoid (m.cases.tagName name)) then s.2
      else (s.1, m.cases.tagName name) :: s.2)
  | .endTag name _ => (s.1, closeNearest (m.cases.tagName name) s.2)
  | _ => (s.1 + 1, s.2)

def openAfter (m : Manner) (id : Nat) (ts : List Token) : List (NodeId × String) :=
  (ts.foldl (follow m) (id, [])).2

def innermost (m : Manner) (root : NodeId) (ts : List Token) : NodeId :=
  ((openAfter m (root + 1) ts).map Prod.fst).headD root

theorem hollow_of_body? (h : t.body? m = some body) : body.hollow = body := by
  cases t <;> cases h <;> rfl

theorem childIds_of_body? (h : t.body? m = some body) : (Node.ofBody body).childIds = [] := by
  cases t <;> cases h <;> rfl

theorem follow_node {s : Nat × List (NodeId × String)} (h : t.body? m = some body) :
    (t.follow m s).2 = s.2 ∨ ∃ tag, (t.follow m s).2 = (s.1, tag) :: s.2 := by
  cases t with
  | startTag name as selfClosing span =>
    simp only [follow]
    split
    · exact .inl rfl
    · exact .inr ⟨_, rfl⟩
  | endTag name span => cases h
  | _ => exact .inl rfl

theorem closeNearest_suffix (tag : String) (opened : List (NodeId × String)) :
    closeNearest tag opened <:+ opened := by
  unfold closeNearest
  split
  · exact List.drop_suffix _ _
  · exact List.suffix_rfl

theorem follow_end {s : Nat × List (NodeId × String)} (h : t.body? m = none) :
    (t.follow m s).2 <:+ s.2 := by
  cases t with
  | endTag name span => exact closeNearest_suffix _ _
  | _ => cases h

theorem closeNearest_of_dropWhile_nil (h : opened.dropWhile (·.2 != tag) = []) :
    closeNearest tag opened = opened := by
  have hnone : opened.findIdx? (·.2 == tag) = none := by
    rw [List.findIdx?_eq_none_iff]
    intro e he
    have hall := List.dropWhile_eq_nil_iff.mp h e he
    simpa using hall
  rw [closeNearest, hnone]

theorem closeNearest_of_dropWhile_cons {e : NodeId × String} {outer : List (NodeId × String)}
    (h : opened.dropWhile (·.2 != tag) = e :: outer) : closeNearest tag opened = outer := by
  induction opened with
  | nil => cases h
  | cons a rest ih =>
    by_cases ha : a.2 = tag
    · rw [List.dropWhile_cons_of_neg (by simp [ha])] at h
      cases h
      simp [closeNearest, List.findIdx?_cons, ha]
    · rw [List.dropWhile_cons_of_pos (by simp [ha])] at h
      have hrest := ih h
      have hlater : (a :: rest).findIdx? (·.2 == tag) =
          (rest.findIdx? (·.2 == tag)).map (· + 1) := by simp [List.findIdx?_cons, ha]
      rw [closeNearest, hlater]
      cases hi : rest.findIdx? (·.2 == tag) with
      | some i => simpa [closeNearest, hi] using hrest
      | none =>
        rw [List.findIdx?_eq_none_iff] at hi
        have hnil : rest.dropWhile (·.2 != tag) = [] :=
          List.dropWhile_eq_nil_iff.mpr fun x hx => by simpa using hi x hx
        rw [hnil] at h
        cases h

end Token

def Body.push (id : NodeId) (b : Body) : Body :=
  b.mapContainer fun c => { c with children := some (c.childList.push id) }

theorem Body.label_push (id : NodeId) (b : Body) : (b.push id).label = b.label := by
  cases b <;> rfl

theorem Body.hollow_push (id : NodeId) (b : Body) : (b.push id).hollow = b.hollow :=
  b.hollow_mapChildren fun c => some (c.childList.push id)

theorem Body.childIds_push {b : Body} (h : b.container?.isSome = true) (id : NodeId) :
    (Node.ofBody (b.push id)).childIds = (Node.ofBody b).childIds ++ [id] := by
  cases b <;> first | rfl | cases h

namespace Forest

def hung? (f : Forest) (id : NodeId) : Option (Option NodeId × Body) :=
  (f.get? id).map fun n => (n.parent, n.body)

theorem leaf?_eq_hung? (f : Forest) (id : NodeId) :
    f.leaf? id = (f.hung? id).map fun e => (e.2.label, (Node.ofBody e.2).childIds) := by
  rw [leaf?, hung?, Option.map_map]
  rfl

theorem hung?_setRanges {start stop : SourceRange} :
    (f.setRanges id start stop).hung? x = f.hung? x := by
  rw [hung?, hung?, setRanges, get?_modify]
  split
  · rw [Option.map_map]
    rfl
  · rfl

theorem hung?_setEndRange {stop : SourceRange} : (f.setEndRange id stop).hung? x = f.hung? x := by
  rw [hung?, hung?, setEndRange, get?_modify]
  split
  · rw [Option.map_map]
    rfl
  · rfl

theorem hung?_attach_push (hp : id < f.size) :
    ((f.push (.ofBody body)).attach id f.size).hung? x =
      if x = f.size then some (some id, body)
      else if x = id then (f.hung? x).map fun e => (e.1, e.2.push f.size)
      else f.hung? x := by
  rw [hung?, hung?, get?_attach_push hp]
  split
  · rfl
  · split
    · next hx =>
      rw [hx, Option.map_map, Option.map_map]
      rfl
    · rfl

def KeepsNodes (f g : Forest) : Prop :=
  ∀ ⦃x e⦄, f.hung? x = some e → ∃ e', g.hung? x = some e' ∧ e'.1 = e.1 ∧ e'.2.hollow = e.2.hollow

theorem KeepsNodes.refl (f : Forest) : f.KeepsNodes f := fun _ e he => ⟨e, he, rfl, rfl⟩

theorem KeepsNodes.of_hung? (h : ∀ x, g.hung? x = f.hung? x) : f.KeepsNodes g :=
  fun x e he => ⟨e, (h x).trans he, rfl, rfl⟩

theorem KeepsNodes.trans {k : Forest} (h : f.KeepsNodes g) (h' : g.KeepsNodes k) :
    f.KeepsNodes k := by
  intro x e he
  obtain ⟨e', he', hp, hb⟩ := h he
  obtain ⟨e'', he'', hp', hb'⟩ := h' he'
  exact ⟨e'', he'', hp'.trans hp, hb'.trans hb⟩

theorem lt_of_hung? {e : Option NodeId × Body} (h : f.hung? x = some e) : x < f.size := by
  obtain ⟨n, hn, _⟩ := Option.map_eq_some_iff.mp h
  exact lt_of_get? hn

theorem keepsNodes_attach_push (body : Body) (hp : id < f.size) :
    f.KeepsNodes ((f.push (.ofBody body)).attach id f.size) := by
  intro x e he
  have hne : x ≠ f.size := Nat.ne_of_lt (lt_of_hung? he)
  rw [hung?_attach_push hp, if_neg hne]
  split
  · exact ⟨(e.1, e.2.push f.size), by rw [he]; rfl, rfl, Body.hollow_push f.size e.2⟩
  · exact ⟨e, he, rfl, rfl⟩

theorem appendChild_fresh {n : Node} (hf : f.WellFormed) (hl : (f.childList? id).isSome)
    (hr : n.parent = none) (hn : n.childIds = []) :
    appendChild id f.size (f.push n) = .ok () ((f.push n).attach id f.size) := by
  obtain ⟨l, hl⟩ := Option.isSome_iff_exists.mp hl
  have hne : id ≠ f.size := Nat.ne_of_lt (lt_of_childList? hl)
  have hg := hf.push hr hn
  have hroot : (f.push n).parent? f.size = none := by rw [parent?_push, if_pos rfl, hr]
  have hdetach : (f.push n).detach f.size = f.push n := by rw [detach, hroot]
  have hcheck : (f.push n).checkAppend id f.size = .ok () := by
    refine checkAppend_eq_ok_iff.mpr ⟨?_, ?_, by simp⟩
    · rw [childList?_push, if_neg hne, hl]
      rfl
    · rw [← Bool.not_eq_true, hg.isAbove_iff]
      exact hg.not_above_of_childIds_nil (childIds_push_self hn) (Ne.symm hne)
  rw [appendChild_eq hg, hcheck, hdetach]
  rfl

end Forest

namespace Growth

variable {g : Growth} {offset : Nat} {ids : List (NodeId × String)}

theorem size_endAt : (endAt m offset ids f).size = f.size :=
  endAt_ind (P := fun k => k.size = f.size) rfl fun _ _ k _ h => by simpa [setEndRange] using h

theorem hung?_endAt : (endAt m offset ids f).hung? x = f.hung? x :=
  endAt_ind (P := fun k => k.hung? x = f.hung? x) rfl fun _ _ _ _ h =>
    hung?_setEndRange.trans h

theorem size_grow : (g.grow m body span).forest.size = g.forest.size + 1 := by
  unfold grow
  cases m.lines <;> simp [setRanges]

theorem hung?_grow : (g.grow m body span).forest.hung? x =
    ((g.forest.push (.ofBody body)).attach g.current g.forest.size).hung? x := by
  unfold grow
  cases m.lines with
  | none => rfl
  | some lines => exact hung?_setRanges

theorem step_node (h : t.body? m = some body) :
    (g.step m t).forest.size = g.forest.size + 1 ∧ ∀ x, (g.step m t).forest.hung? x =
      ((g.forest.push (.ofBody body)).attach g.current g.forest.size).hung? x := by
  cases t with
  | startTag name as selfClosing span =>
    cases h
    simp only [step, startTag]
    split
    · exact ⟨size_endAt.trans size_grow, fun x => hung?_endAt.trans hung?_grow⟩
    · exact ⟨size_grow, fun x => hung?_grow⟩
  | endTag name span => cases h
  | _ =>
    cases h
    exact ⟨size_grow, fun x => hung?_grow⟩

theorem step_end (h : t.body? m = none) : (g.step m t).forest.size = g.forest.size ∧
    ∀ x, (g.step m t).forest.hung? x = g.forest.hung? x := by
  cases t with
  | endTag name span =>
    simp only [step, endTag]
    split
    · exact ⟨rfl, fun x => rfl⟩
    · cases m.lines with
      | none => exact ⟨size_endAt, fun x => hung?_endAt⟩
      | some lines =>
        exact ⟨(size_modify _ _ _).trans size_endAt, fun x => hung?_setEndRange.trans hung?_endAt⟩
  | _ => cases h

theorem follow_step (t : Token) :
    ((g.step m t).forest.size, (g.step m t).opened) = t.follow m (g.forest.size, g.opened) := by
  cases t with
  | startTag name as selfClosing span =>
    have hsize := (step_node (g := g) (m := m) (t := .startTag name as selfClosing span) rfl).1
    refine Prod.ext hsize ?_
    simp only [step, startTag, Token.follow]
    split <;> rfl
  | endTag name span =>
    refine Prod.ext (step_end (g := g) (t := .endTag name span) rfl).1 ?_
    simp only [step, endTag, Token.follow]
    split
    · next h => exact (Token.closeNearest_of_dropWhile_nil h).symm
    · next h => exact (Token.closeNearest_of_dropWhile_cons h).symm
  | _ => exact Prod.ext size_grow rfl

theorem leaf?_step (hl : (g.forest.childList? g.current).isSome) (hb : t.body? m = some body) :
    (g.step m t).forest.leaf? x =
      Outline.withChild g.forest.leaf? g.current g.forest.size body.label x := by
  obtain ⟨l, hl⟩ := Option.isSome_iff_exists.mp hl
  obtain ⟨n, hn, hc⟩ := Option.bind_eq_some_iff.mp hl
  have hcontainer : n.body.container?.isSome = true := by
    obtain ⟨c, hc, _⟩ := Option.map_eq_some_iff.mp hc
    rw [hc]
    rfl
  have hself : g.forest.hung? g.current = some (n.parent, n.body) := by rw [hung?, hn]; rfl
  rw [leaf?_eq_hung?, (step_node hb).2, hung?_attach_push (lt_of_get? hn), Outline.withChild,
    leaf?_eq_hung?]
  split
  · rw [Option.map_some, Token.childIds_of_body? hb]
  · split
    · next hx =>
      rw [hx, hself]
      simp only [Option.map_some, Body.label_push, Body.childIds_push hcontainer]
    · rfl

theorem keepsNodes_step (hlt : g.current < g.forest.size) (t : Token) :
    g.forest.KeepsNodes (g.step m t).forest := by
  cases hb : t.body? m with
  | some body =>
    exact (keepsNodes_attach_push body hlt).trans (.of_hung? (step_node hb).2)
  | none => exact .of_hung? (step_end hb).2

theorem Beside.current_lt (hg : g.Beside f) : g.current < g.forest.size := by
  obtain ⟨l, hl⟩ := Option.isSome_iff_exists.mp hg.current.2
  exact lt_of_childList? hl

theorem Beside.keepsNodes_run (hg : g.Beside f) (ts : List Token) :
    g.forest.KeepsNodes (ts.foldl (Growth.step m) g).forest := by
  induction ts generalizing g with
  | nil => exact .refl _
  | cons t ts ih => exact (keepsNodes_step hg.current_lt t).trans (ih (hg.step t))

theorem follow_run (ts : List Token) : ((ts.foldl (Growth.step m) g).forest.size,
    (ts.foldl (Growth.step m) g).opened) = ts.foldl (Token.follow m) (g.forest.size, g.opened) := by
  induction ts generalizing g with
  | nil => rfl
  | cons t ts ih => rw [List.foldl_cons, List.foldl_cons, ih, follow_step]

theorem size_run (ts : List Token) : (ts.foldl (Growth.step m) g).forest.size =
    g.forest.size + Token.nodeCount m ts := by
  induction ts generalizing g with
  | nil => rfl
  | cons t ts ih =>
    rw [List.foldl_cons, ih]
    unfold Token.nodeCount
    rw [List.countP_cons]
    cases hb : t.body? m with
    | some body =>
      rw [(step_node hb).1]
      simp only [Option.isSome_some, if_true]
      omega
    | none =>
      rw [(step_end hb).1]
      simp

structure InDocumentOrder (base : Nat) (g : Growth) (o : Outline) : Prop where
  root : g.root = base
  size : g.forest.size = base + o.size
  numbered : o.Numbered g.forest.leaf? base [base]
  path : base :: (g.opened.map Prod.fst).reverse <+: o.spine base

namespace InDocumentOrder

theorem getElem?_current (hg : g.InDocumentOrder base o) :
    (o.spine base)[g.opened.length]? = some g.current := by
  obtain ⟨rest, hrest⟩ := hg.path
  rw [← hrest, List.getElem?_append_left (by simp)]
  unfold current
  cases hop : g.opened with
  | nil => simp [hg.root]
  | cons e outer => simp

theorem take_spine (hg : g.InDocumentOrder base o) :
    (o.spine base).take (g.opened.length + 1) = base :: (g.opened.map Prod.fst).reverse := by
  have hpre := List.prefix_iff_eq_take.mp hg.path
  rw [hpre]
  simp

theorem node (hg : g.InDocumentOrder base o) (hl : (g.forest.childList? g.current).isSome)
    (hb : t.body? m = some body) :
    (g.step m t).InDocumentOrder base (o.hang body.label (g.opened.length + 1)) := by
  have hsize := (step_node (g := g) hb).1
  have hdepth : g.opened.length + 1 ≤ (o.spine base).length := by simpa using hg.path.length_le
  refine ⟨(root_step t).trans hg.root, ?_, ?_, ?_⟩
  · rw [hsize, hg.size, Outline.size_hang]
    rfl
  · have hhang := hg.numbered.hang body.label (d := g.opened.length + 1) (p := g.current)
      hg.getElem?_current hg.size
    exact hhang.congr fun x _ _ => leaf?_step hl hb
  · have hopened : (g.step m t).opened = _ := congrArg Prod.snd (follow_step (g := g) t)
    rw [Outline.spine_hang body.label hdepth, hg.take_spine, hopened]
    rcases Token.follow_node (s := (g.forest.size, g.opened)) hb with h | ⟨tag, h⟩
    · rw [h]
      exact List.prefix_append _ _
    · rw [h, hg.size]
      simp

theorem close (hg : g.InDocumentOrder base o) (hb : t.body? m = none) :
    (g.step m t).InDocumentOrder base o := by
  obtain ⟨hsize, hhung⟩ := step_end (g := g) hb
  refine ⟨(root_step t).trans hg.root, hsize.trans hg.size, ?_, ?_⟩
  · refine hg.numbered.congr fun x _ _ => ?_
    rw [leaf?_eq_hung?, hhung, leaf?_eq_hung?]
  · have hopened : (g.step m t).opened = _ := congrArg Prod.snd (follow_step (g := g) t)
    rw [hopened]
    refine List.IsPrefix.trans ?_ hg.path
    rw [List.cons_prefix_cons, List.reverse_prefix]
    exact ⟨rfl, (Token.follow_end hb).map Prod.fst⟩

theorem run (hg : g.InDocumentOrder base o) (hbeside : g.Beside f) (ts : List Token) :
    ∃ o' : Outline, (ts.foldl (Growth.step m) g).InDocumentOrder base o' := by
  induction ts generalizing g o with
  | nil => exact ⟨o, hg⟩
  | cons t ts ih =>
    cases hb : t.body? m with
    | some body => exact ih (hg.node hbeside.current.2 hb) (hbeside.step t)
    | none => exact ih (hg.close hb) (hbeside.step t)

end InDocumentOrder

end Growth

def ReaderConfig.manner (config : ReaderConfig) (markup : String) : Manner :=
  ⟨config.cases, config.dialect, if config.tracksPlaces then some (.ofText markup) else none⟩

section Planted

variable (config : ReaderConfig) (markup baseUri : String) (f : Forest)

def Growth.atDocument : Growth :=
  .start (f.push (documentNode config.cases ⟨config.dialect⟩ baseUri)) f.size

/-- The forest `g` is `f` with a document read from markup, whose number is `f.size`. -/
structure Planted (g : Forest) : Prop where
  old : f.Extends g
  size : g.size = f.size + 1 +
    Token.nodeCount (config.manner markup) (Token.tokens config.dialect markup)
  order : g.descendants f.size = .ok (List.range' f.size (g.size - f.size))
  document : ∃ b, g.hung? f.size = some (none, b) ∧
    b.hollow = (documentNode config.cases ⟨config.dialect⟩ baseUri).body
  node : ∀ before t after body, Token.tokens config.dialect markup = before ++ t :: after →
    t.body? (config.manner markup) = some body →
    ∃ b, g.hung? (f.size + 1 + Token.nodeCount (config.manner markup) before) =
        some (some (Token.innermost (config.manner markup) f.size before), b) ∧ b.hollow = body
  accepted : ∀ before t after body, Token.tokens config.dialect markup = before ++ t :: after →
    t.body? (config.manner markup) = some body →
    ∀ k, before.foldl (Growth.step (config.manner markup))
        (Growth.atDocument config baseUri f) = k →
      appendChild k.current k.forest.size (k.forest.push (.ofBody body)) =
        .ok () ((k.forest.push (.ofBody body)).attach k.current k.forest.size)

variable {config markup baseUri f}

theorem Growth.current_eq_headD (g : Growth) :
    g.current = (g.opened.map Prod.fst).headD g.root := by
  unfold Growth.current
  cases g.opened <;> rfl

theorem Growth.beside_atDocument (config : ReaderConfig) (baseUri : String) (hf : f.WellFormed) :
    (Growth.atDocument config baseUri f).Beside f where
  old := (Extends.refl f).push _
  wellFormed := hf.push rfl rfl
  root := ⟨Nat.le_refl _, by
    simp only [Growth.atDocument, Growth.start]
    rw [childList?_push, if_pos rfl]
    rfl⟩
  opened := by simp [Growth.atDocument, Growth.start]

theorem Growth.inDocumentOrder_atDocument (config : ReaderConfig) (baseUri : String) (f : Forest) :
    (Growth.atDocument config baseUri f).InDocumentOrder f.size
      (.node (documentNode config.cases ⟨config.dialect⟩ baseUri).body.label .nil .nil) where
  root := rfl
  size := size_push f _
  numbered := by
    refine ⟨[], [], rfl, ?_, rfl, rfl⟩
    simp only [Growth.atDocument, Growth.start]
    rw [leaf?, get?_push, if_pos rfl]
    rfl
  path := List.prefix_rfl

theorem Forest.hung?_plant (x : NodeId) : (f.plant config markup baseUri).hung? x =
    ((Token.tokens config.dialect markup).foldl (Growth.step (config.manner markup))
      (Growth.atDocument config baseUri f)).forest.hung? x := Growth.hung?_endAt

theorem Forest.size_plant : (f.plant config markup baseUri).size =
    ((Token.tokens config.dialect markup).foldl (Growth.step (config.manner markup))
      (Growth.atDocument config baseUri f)).forest.size := Growth.size_endAt

theorem Growth.size_atDocument : (Growth.atDocument config baseUri f).forest.size = f.size + 1 :=
  size_push f _

theorem Growth.current_run (m : Manner) (config : ReaderConfig) (baseUri : String) (f : Forest)
    (ts : List Token) : (ts.foldl (Growth.step m) (Growth.atDocument config baseUri f)).current =
      Token.innermost m f.size ts := by
  have hfollow := congrArg Prod.snd
    (Growth.follow_run (g := Growth.atDocument config baseUri f) (m := m) ts)
  rw [Growth.size_atDocument] at hfollow
  rw [Growth.current_eq_headD, Growth.root_run]
  exact congrArg (fun l : List (NodeId × String) => (l.map Prod.fst).headD f.size) hfollow

theorem Growth.InDocumentOrder.plant (ho : ((Token.tokens config.dialect markup).foldl
      (Growth.step (config.manner markup))
        (Growth.atDocument config baseUri f)).InDocumentOrder f.size o) :
    (f.plant config markup baseUri).size = f.size + o.size ∧
      o.Numbered (f.plant config markup baseUri).leaf? f.size [f.size] := by
  refine ⟨size_plant.trans ho.size, ho.numbered.congr fun x _ _ => ?_⟩
  rw [leaf?_eq_hung?, hung?_plant, leaf?_eq_hung?]

theorem descendants_plant (hf : f.WellFormed) : (f.plant config markup baseUri).descendants f.size =
    .ok (List.range' f.size ((f.plant config markup baseUri).size - f.size)) := by
  obtain ⟨o, ho⟩ :=
      (Growth.inDocumentOrder_atDocument config baseUri f).run (m := config.manner markup)
    (Growth.beside_atDocument config baseUri hf) (Token.tokens config.dialect markup)
  obtain ⟨hsize, hnumbered⟩ := ho.plant
  have hgrown := ((hf.plant config markup baseUri).2).size_le
  have hpos : 0 < o.size := by
    cases o with
    | nil => simp [Outline.Numbered] at hnumbered
    | node label below after => simp [Outline.size]
  rw [descendants_numbered hnumbered (by omega) (by omega), hsize, Nat.add_sub_cancel_left]

theorem planted_plant (hf : f.WellFormed) :
    Planted config markup baseUri f (f.plant config markup baseUri) := by
  have hstart := Growth.beside_atDocument config baseUri hf
  refine ⟨(hf.plant config markup baseUri).2, ?_, descendants_plant hf, ?_, ?_, ?_⟩
  · rw [size_plant, Growth.size_run, Growth.size_atDocument]
  · have hnew : (Growth.atDocument config baseUri f).forest.hung? f.size =
        some (none, (documentNode config.cases ⟨config.dialect⟩ baseUri).body) := by
      simp only [Growth.atDocument, Growth.start]
      rw [hung?, get?_push, if_pos rfl]
      rfl
    obtain ⟨⟨p, b⟩, he, rfl, hb⟩ := hstart.keepsNodes_run (m := config.manner markup)
      (Token.tokens config.dialect markup) hnew
    exact ⟨b, (hung?_plant f.size).trans he, hb⟩
  · intro before t after body hts hbody
    have hk := hstart.run (m := config.manner markup) before
    have hcurrent := Growth.current_run (config.manner markup) config baseUri f before
    have hsize := Growth.size_run (m := config.manner markup)
      (g := Growth.atDocument config baseUri f) before
    rw [Growth.size_atDocument] at hsize
    generalize hbefore : before.foldl (Growth.step (config.manner markup))
      (Growth.atDocument config baseUri f) = k at hk hcurrent hsize
    have hnew : (k.step (config.manner markup) t).forest.hung? k.forest.size =
        some (some k.current, body) := by
      rw [(Growth.step_node hbody).2, hung?_attach_push hk.current_lt, if_pos rfl]
    obtain ⟨⟨p, b⟩, he, rfl, hb⟩ :=
        (hk.step t).keepsNodes_run (m := config.manner markup) after hnew
    rw [hung?_plant, hts, List.foldl_append, List.foldl_cons, hbefore, ← hsize, ← hcurrent]
    exact ⟨b, he, hb.trans (Token.hollow_of_body? hbody)⟩
  · rintro before t after body - hbody k rfl
    have hk := hstart.run (m := config.manner markup) before
    exact appendChild_fresh hk.wellFormed hk.current.2 rfl (Token.childIds_of_body? hbody)

end Planted

theorem document_follows_tokens (h : Reachable f) (config : ReaderConfig)
    (markup baseUri : String) :
    ∃ g, readDocument config markup baseUri f = .ok f.size g ∧ Planted config markup baseUri f g :=
  ⟨_, rfl, planted_plant h.wellFormed⟩

theorem document_follows_tokens_twoLists : Reachable twoLists ∧ ∃ g,
    readDocument (.tracking .html true) "<ul><li>a<br></ul></p>b" "" twoLists = .ok 6 g ∧
      Planted (.tracking .html true) "<ul><li>a<br></ul></p>b" "" twoLists g ∧
      g.childIds 6 = [7, 11] ∧ g.childIds 7 = [8] ∧ g.childIds 8 = [9, 10] ∧
      g.descendants 6 = .ok [6, 7, 8, 9, 10, 11] := by
  have h : Reachable twoLists := reaches_runAll _
  obtain ⟨g, hread, hg⟩ :=
    document_follows_tokens h (.tracking .html true) "<ul><li>a<br></ul></p>b" ""
  refine ⟨h, g, hread, hg, ?_⟩
  cases hread
  decide +kernel

end MarkupForest
