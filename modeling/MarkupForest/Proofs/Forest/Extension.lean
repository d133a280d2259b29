import MarkupForest.Proofs.Edit.Specs
import MarkupForest.Forest.Growth

namespace MarkupForest

open Edit Forest

variable {f g h : Forest} {a c p x root : NodeId} {n : Node} {u : Node → Node}

namespace Forest

def Extends (f g : Forest) : Prop := ∀ ⦃id n⦄, f.get? id = some n → g.get? id = some n

namespace Extends

theorem refl (f : Forest) : f.Extends f := fun _ _ hn => hn

theorem trans (hfg : f.Extends g) (hgh : g.Extends h) : f.Extends h := fun _ _ hn => hgh (hfg hn)

theorem get?_eq (hfg : f.Extends g) (hx : x < f.size) : g.get? x = f.get? x := by
  obtain ⟨n, hn⟩ := exists_get? hx
  rw [hfg hn, hn]

theorem size_le (hfg : f.Extends g) : f.size ≤ g.size := by
  by_contra hlt
  obtain ⟨n, hn⟩ := exists_get? (Nat.lt_of_not_le hlt)
  exact absurd (lt_of_get? (hfg hn)) (Nat.lt_irrefl _)

theorem parent?_eq (hfg : f.Extends g) (hx : x < f.size) : g.parent? x = f.parent? x := by
  rw [parent?, hfg.get?_eq hx, parent?]

theorem childList?_eq (hfg : f.Extends g) (hx : x < f.size) : g.childList? x = f.childList? x := by
  rw [childList?, hfg.get?_eq hx, childList?]

theorem childIds_eq (hfg : f.Extends g) (hx : x < f.size) : g.childIds x = f.childIds x := by
  rw [childIds, hfg.get?_eq hx, childIds]

theorem push (hfg : f.Extends g) (n : Node) : f.Extends (g.push n) := by
  intro id m hm
  have hlt : id < g.size := lt_of_get? (hfg hm)
  rw [get?_push, if_neg (Nat.ne_of_lt hlt), hfg hm]

theorem modify (hfg : f.Extends g) (hx : f.size ≤ x) : f.Extends (g.modify x u) := by
  intro id m hm
  have hlt : id < f.size := lt_of_get? hm
  have hne : x ≠ id := Ne.symm (Nat.ne_of_lt (Nat.lt_of_lt_of_le hlt hx))
  rw [get?_modify, if_neg hne, hfg hm]

theorem attach (hfg : f.Extends g) (hp : f.size ≤ p) (hc : f.size ≤ c) :
    f.Extends (g.attach p c) :=
  ((hfg.modify hp).modify hc).modify hc

theorem lt_of_above (hfg : f.Extends g) (hf : f.WellFormed) (ha : g.Above a x) (hx : x < f.size) :
    a < f.size := by
  induction ha with
  | refl => exact hx
  | tail _ hq ih =>
    rw [hfg.parent?_eq ih] at hq
    exact hf.parent_lt hq

end Extends

theorem WellFormed.not_above_of_childIds_nil (hf : f.WellFormed) (hc : f.childIds c = [])
    (hne : c ≠ p) : ¬ f.Above c p := by
  intro ha
  rcases Relation.ReflTransGen.cases_tail ha with he | ⟨b, _, hb⟩
  · exact hne he
  · have hm := hf.mem_iff.mpr hb
    rw [hc] at hm
    cases hm

theorem childIds_push_self (hn : n.childIds = []) : (f.push n).childIds f.size = [] := by
  rw [childIds, get?_push, if_pos rfl]
  exact hn

theorem WellFormed.hang (hf : f.WellFormed) (hl : (f.childList? p).isSome)
    (hr : n.parent = none) (hn : n.childIds = []) : ((f.push n).attach p f.size).WellFormed := by
  obtain ⟨l, hl⟩ := Option.isSome_iff_exists.mp hl
  have hp : p ≠ f.size := Nat.ne_of_lt (lt_of_childList? hl)
  have hg := hf.push hr hn
  refine hg.attach (l := l) (by rw [childList?_push, if_neg hp, hl]) (by simp) ?_ ?_
  · rw [parent?_push, if_pos rfl, hr]
  · exact hg.not_above_of_childIds_nil (childIds_push_self hn) (Ne.symm hp)

theorem isSome_childList?_attach :
    ((f.attach p c).childList? x).isSome = (f.childList? x).isSome := by
  rw [childList?_attach]
  split <;> simp

theorem isSome_childList?_hang (hl : (f.childList? x).isSome) :
    (((f.push n).attach p f.size).childList? x).isSome := by
  obtain ⟨l, hx⟩ := Option.isSome_iff_exists.mp hl
  rw [isSome_childList?_attach, childList?_push, if_neg (Nat.ne_of_lt (lt_of_childList? hx)), hl]

theorem childIds_hang {l : ChildList} (hl : f.childList? p = some l) (hn : n.childIds = []) :
    ((f.push n).attach p f.size).childIds x =
      if x = f.size then [] else if x = p then f.childIds p ++ [f.size] else f.childIds x := by
  have hne : p ≠ f.size := Nat.ne_of_lt (lt_of_childList? hl)
  have hpush : ∀ y, y ≠ f.size → (f.push n).childIds y = f.childIds y := fun y hy => by
    rw [childIds, get?_push, if_neg hy, childIds]
  rw [childIds_attach (l := l) (by rw [childList?_push, if_neg hne, hl])]
  by_cases hx : x = f.size
  · rw [hx, if_neg (Ne.symm hne), if_pos rfl, childIds_push_self hn]
  · rw [if_neg hx, hpush x hx, hpush p hne]

structure SameLinks (f g : Forest) : Prop where
  parent : ∀ x, g.parent? x = f.parent? x
  list : ∀ x, g.childList? x = f.childList? x
  index : ∀ x, g.index? x = f.index? x

theorem WellFormed.sameLinks (hf : f.WellFormed) (h : f.SameLinks g) : g.WellFormed :=
  hf.of_views h.parent h.list h.index

theorem sameLinks_setRanges {start stop : SourceRange} : f.SameLinks (f.setRanges x start stop) :=
  ⟨fun _ => parent?_modify fun _ => rfl, fun _ => childList?_modify fun _ => rfl,
    fun _ => index?_modify fun _ => rfl⟩

theorem sameLinks_setEndRange {stop : SourceRange} : f.SameLinks (f.setEndRange x stop) :=
  ⟨fun _ => parent?_modify fun _ => rfl, fun _ => childList?_modify fun _ => rfl,
    fun _ => index?_modify fun _ => rfl⟩

theorem sameLinks_mapAttributes {k : Option Attributes → Option Attributes} :
    f.SameLinks (f.modify x (Node.mapAttributes k)) :=
  ⟨fun _ => parent?_modify fun _ => rfl,
    fun _ => childList?_modify fun n => by
      rw [Node.mapAttributes, Body.container?_mapContainer, Option.map_map]
      rfl,
    fun _ => index?_modify fun _ => rfl⟩

end Forest

structure Growth.Beside (f : Forest) (g : Growth) : Prop where
  old : f.Extends g.forest
  wellFormed : g.forest.WellFormed
  root : f.size ≤ g.root ∧ (g.forest.childList? g.root).isSome
  opened : ∀ e ∈ g.opened, f.size ≤ e.1 ∧ (g.forest.childList? e.1).isSome

namespace Growth

variable {g : Growth} {m : Manner} {body : Body} {span : Span} {ids : List (NodeId × String)}

theorem endAt_ind {P : Forest → Prop} {offset : Nat} (hf : P f)
    (hstep : ∀ e ∈ ids, ∀ k stop, P k → P (k.setEndRange e.1 stop)) : P (endAt m offset ids f) := by
  unfold endAt
  cases m.lines with
  | none => exact hf
  | some lines =>
    induction ids generalizing f with
    | nil => exact hf
    | cons e es ih =>
      exact ih (hstep e List.mem_cons_self f _ hf) fun y hy => hstep y (List.mem_cons_of_mem e hy)

theorem root_step (t : Token) : (g.step m t).root = g.root := by
  cases t with
  | startTag name as selfClosing span =>
    show (g.startTag m name as selfClosing span).root = _
    unfold Growth.startTag
    dsimp only
    split <;> rfl
  | endTag name span =>
    show (g.endTag m name span).root = _
    unfold Growth.endTag
    dsimp only
    split <;> rfl
  | _ => rfl

theorem root_run (ts : List Token) : (ts.foldl (Growth.step m) g).root = g.root := by
  induction ts generalizing g with
  | nil => rfl
  | cons t ts ih => exact ih.trans (root_step t)

namespace Beside

theorem current (hg : g.Beside f) :
    f.size ≤ g.current ∧ (g.forest.childList? g.current).isSome := by
  unfold Growth.current
  split
  · next id tag rest he => exact hg.opened (id, tag) (he ▸ List.mem_cons_self)
  · exact hg.root

theorem relink (hg : g.Beside f) {k : Forest} (hold : f.Extends k) (hk : g.forest.SameLinks k)
    {os : List (NodeId × String)} (hos : ∀ e ∈ os, e ∈ g.opened) :
    Beside f ⟨k, g.root, os⟩ where
  old := hold
  wellFormed := hg.wellFormed.sameLinks hk
  root := ⟨hg.root.1, by rw [hk.list]; exact hg.root.2⟩
  opened e he := ⟨(hg.opened e (hos e he)).1, by rw [hk.list]; exact (hg.opened e (hos e he)).2⟩

theorem grow (hg : g.Beside f) (hb : (Node.ofBody body).childIds = []) :
    (g.grow m body span).Beside f := by
  have hcur := hg.current
  have hhang : Beside f
      ⟨(g.forest.push (.ofBody body)).attach g.current g.forest.size, g.root, g.opened⟩ := by
    refine ⟨?_, hg.wellFormed.hang hcur.2 rfl hb, ?_, ?_⟩
    · exact (hg.old.push _).attach hcur.1 hg.old.size_le
    · exact ⟨hg.root.1, isSome_childList?_hang hg.root.2⟩
    · intro e he
      exact ⟨(hg.opened e he).1, isSome_childList?_hang (hg.opened e he).2⟩
  unfold Growth.grow
  cases m.lines with
  | none => exact hhang
  | some lines =>
    exact hhang.relink (hhang.old.modify hg.old.size_le) sameLinks_setRanges fun _ => id

theorem endAt (hg : g.Beside f) (offset : Nat) (hids : ∀ e ∈ ids, f.size ≤ e.1)
    {os : List (NodeId × String)} (hos : ∀ e ∈ os, e ∈ g.opened) :
    Beside f ⟨Growth.endAt m offset ids g.forest, g.root, os⟩ := by
  have hk : f.Extends (Growth.endAt m offset ids g.forest) ∧
      g.forest.SameLinks (Growth.endAt m offset ids g.forest) := by
    refine endAt_ind (P := fun k => f.Extends k ∧ g.forest.SameLinks k)
      ⟨hg.old, ⟨fun _ => rfl, fun _ => rfl, fun _ => rfl⟩⟩ ?_
    rintro e he k stop ⟨hold, hk⟩
    have hs : k.SameLinks (k.setEndRange e.1 stop) := sameLinks_setEndRange
    exact ⟨hold.modify (hids e he), fun x => (hs.parent x).trans (hk.parent x),
      fun x => (hs.list x).trans (hk.list x), fun x => (hs.index x).trans (hk.index x)⟩
  exact hg.relink hk.1 hk.2 hos

theorem startTag (hg : g.Beside f) {name : String} {as : List TokenAttribute}
    {selfClosing : Bool} : (g.startTag m name as selfClosing span).Beside f := by
  unfold Growth.startTag
  generalize hat : (if as = [] then none else some (attributesOf m as)) = attributes
  have hgrow : (g.grow m (.element (m.cases.tagName name) ⟨none, attributes⟩) span).Beside f :=
    hg.grow rfl
  have hnew : f.size ≤ g.forest.size := hg.old.size_le
  dsimp only
  split
  · refine hgrow.endAt span.stop (fun e he => ?_) fun _ => id
    rw [List.mem_singleton.mp he]
    exact hnew
  · refine ⟨hgrow.old, hgrow.wellFormed, hgrow.root, fun e he => ?_⟩
    rcases List.mem_cons.mp he with rfl | he
    · refine ⟨hnew, ?_⟩
      have hl :
          ((g.grow m (.element (m.cases.tagName name) ⟨none, attributes⟩) span).forest.childList?
          g.forest.size).isSome := by
        have hhang : (((g.forest.push (.ofBody (.element (m.cases.tagName name)
            ⟨none, attributes⟩))).attach g.current g.forest.size).childList?
              g.forest.size).isSome := by
          rw [isSome_childList?_attach, childList?_push, if_pos rfl]
          rfl
        unfold Growth.grow
        cases m.lines with
        | none => exact hhang
        | some lines => rwa [sameLinks_setRanges.list]
      exact hl
    · exact hgrow.opened e he

theorem endTag (hg : g.Beside f) {name : String} : (g.endTag m name span).Beside f := by
  unfold Growth.endTag
  dsimp only
  split
  · exact hg
  · next id tag outer hdrop =>
    have hsub : ∀ e ∈ (id, tag) :: outer, e ∈ g.opened := fun e he =>
      (List.dropWhile_suffix _).subset (hdrop ▸ he)
    have hend : Beside f ⟨Growth.endAt m span.start
        (g.opened.takeWhile (·.2 != m.cases.tagName name)) g.forest, g.root, outer⟩ :=
      hg.endAt span.start (fun e he => (hg.opened e ((List.takeWhile_prefix _).subset he)).1)
        fun e he => hsub e (List.mem_cons_of_mem _ he)
    cases m.lines with
    | none => exact hend
    | some lines =>
      exact hend.relink (hend.old.modify (hg.opened (id, tag) (hsub _ List.mem_cons_self)).1)
        sameLinks_setEndRange fun _ he => he

theorem step (hg : g.Beside f) (t : Token) : (g.step m t).Beside f := by
  cases t with
  | startTag name as selfClosing span => exact hg.startTag
  | endTag name span => exact hg.endTag
  | text s span => exact hg.grow rfl
  | rawText s span => exact hg.grow rfl
  | comment s span => exact hg.grow rfl
  | doctype d span => exact hg.grow rfl

theorem run (hg : g.Beside f) (ts : List Token) : (ts.foldl (Growth.step m) g).Beside f := by
  induction ts generalizing g with
  | nil => exact hg
  | cons t ts ih => exact ih (hg.step t)

end Beside

end Growth

namespace Forest

theorem WellFormed.grow (cases : CasePolicy) (dialect : Dialect) (tracks : Bool)
    (markup : String) (hg : g.WellFormed) (hold : f.Extends g) (hroot : f.size ≤ root)
    (hl : (g.childList? root).isSome) :
    (g.grow cases dialect tracks root markup).WellFormed ∧
      f.Extends (g.grow cases dialect tracks root markup) ∧
      ((g.grow cases dialect tracks root markup).childList? root).isSome := by
  have hstart : (Growth.start g root).Beside f := ⟨hold, hg, ⟨hroot, hl⟩, by simp [Growth.start]⟩
  have hrun := hstart.run (m := ⟨cases, dialect, if tracks then some (.ofText markup) else none⟩)
    (Token.tokens dialect markup)
  have hend := hrun.endAt (m := ⟨cases, dialect, if tracks then some (.ofText markup) else none⟩)
    markup.utf8ByteSize (fun e he => (hrun.opened e he).1) fun _ he => he
  have hkept := hend.root.2
  simp only [Growth.root_run] at hkept
  exact ⟨hend.wellFormed, hend.old, hkept⟩

theorem WellFormed.plant (config : ReaderConfig) (markup base : String) (hf : f.WellFormed) :
    (f.plant config markup base).WellFormed ∧ f.Extends (f.plant config markup base) := by
  have hgrown := (hf.push (n := documentNode config.cases ⟨config.dialect⟩ base) rfl rfl).grow
    config.cases config.dialect config.tracksPlaces markup ((Extends.refl f).push _) (Nat.le_refl _)
    (by rw [childList?_push, if_pos rfl]; rfl)
  exact ⟨hgrown.1, hgrown.2.1⟩

end Forest

namespace Forest

def fragmentRules (f : Forest) (config : ReaderConfig) (context : Option NodeId) :
    CasePolicy × OutputRules :=
  match context.bind f.ownerDocument? with
  | some d => f.rules d
  | none => (config.cases, ⟨config.dialect⟩)

def fragmentGround (f : Forest) (base : String) : Forest :=
  let g := f.push (.ofBody (.element fragmentTag .empty))
  if base = "" then g else g.changeAttributes f.size (·.put Attributes.baseUriKey (some base))

def withFragment (f : Forest) (config : ReaderConfig) (context : Option NodeId)
    (markup base : String) : Forest :=
  let rules := f.fragmentRules config context
  (f.fragmentGround base).grow rules.1 rules.2.dialect config.tracksPlaces f.size markup

theorem WellFormed.fragmentGround (base : String) (hf : f.WellFormed) :
    (f.fragmentGround base).WellFormed ∧ f.Extends (f.fragmentGround base) ∧
      ((f.fragmentGround base).childList? f.size).isSome := by
  let g := f.push (.ofBody (.element fragmentTag .empty))
  have hg : g.WellFormed := hf.push rfl rfl
  have hold : f.Extends g := (Extends.refl f).push _
  have hl : (g.childList? f.size).isSome := by
    rw [childList?_push, if_pos rfl]
    rfl
  unfold Forest.fragmentGround
  split
  · exact ⟨hg, hold, hl⟩
  · have hs : g.SameLinks (g.changeAttributes f.size (·.put Attributes.baseUriKey (some base))) :=
      sameLinks_mapAttributes
    exact ⟨hg.sameLinks hs, hold.modify (Nat.le_refl _), by rwa [hs.list]⟩

structure Fragment (f g : Forest) (root : NodeId) (ids : List NodeId) : Prop where
  old : f.Extends g
  wellFormed : g.WellFormed
  new : f.size ≤ root
  children : g.childIds root = ids

theorem Fragment.fresh {ids : List NodeId} (hg : Fragment f g root ids) (hf : f.WellFormed)
    (hc : c ∈ ids) : f.size ≤ c := by
  by_contra hlt
  have hp : g.parent? c = some root := hg.wellFormed.mem_iff.mp (hg.children ▸ hc)
  rw [hg.old.parent?_eq (Nat.lt_of_not_le hlt)] at hp
  exact absurd (hf.parent_lt hp) (Nat.not_lt.mpr hg.new)

theorem WellFormed.withFragment (config : ReaderConfig) (context : Option NodeId)
    (markup base : String) (hf : f.WellFormed) :
    Fragment f (f.withFragment config context markup base) f.size
      ((f.withFragment config context markup base).childIds f.size) ∧
    ((f.withFragment config context markup base).childList? f.size).isSome := by
  obtain ⟨hg, hold, hl⟩ := hf.fragmentGround base
  obtain ⟨hw, hold, hl⟩ := hg.grow (f.fragmentRules config context).1
    (f.fragmentRules config context).2.dialect config.tracksPlaces markup hold (Nat.le_refl _) hl
  exact ⟨⟨hold, hw, Nat.le_refl _, rfl⟩, hl⟩

end Forest

theorem setBaseUri_ok {base : String} (h : (f.childList? x).isSome) :
    setBaseUri x base f =
      .ok () (f.changeAttributes x (·.put Attributes.baseUriKey (some base))) := by
  obtain ⟨l, hl⟩ := Option.isSome_iff_exists.mp h
  obtain ⟨n, hn, hfind⟩ := find_of_lt (lt_of_childList? hl)
  have hk : n.kind.isContainer = true := by
    rw [Node.isContainer_iff]
    simpa [childList?, hn] using h
  rw [setBaseUri, bind_ok (ask_ok hfind), if_pos hk, modify_eq]

section ReadFragment

variable {config : ReaderConfig} {context : Option NodeId} {markup base : String}

theorem growFragment_ok (hf : f.WellFormed) (rules : CasePolicy × OutputRules)
    (hr : f.fragmentRules config context = rules) :
    (do
      let root ← createElement fragmentTag
      if base != "" then setBaseUri root base
      modify (·.grow rules.1 rules.2.dialect config.tracksPlaces root markup)
      ask (·.children root) : Edit (List NodeId)) f =
      .ok ((f.withFragment config context markup base).childIds f.size)
        (f.withFragment config context markup base) := by
  subst hr
  obtain ⟨_, hl⟩ := hf.withFragment config context markup base
  obtain ⟨l, hl⟩ := Option.isSome_iff_exists.mp hl
  obtain ⟨n, hn, hfind⟩ := find_of_lt (lt_of_childList? hl)
  have hask : ask (·.children f.size) (f.withFragment config context markup base) = _ :=
    ask_ok (a := n.childIds) (by simp [children, hfind, bind, Except.bind, pure, Except.pure])
  have hids : (f.withFragment config context markup base).childIds f.size = n.childIds := by
    rw [childIds, hn]
  rw [hids, ← hask, bind_ok (e := createElement fragmentTag) create_eq]
  by_cases hb : base = ""
  · subst hb
    rfl
  · have hne : (base != "") = true := by simpa using hb
    have hc : ((f.push (.ofBody (.element fragmentTag .empty))).childList? f.size).isSome := by
      rw [childList?_push, if_pos rfl]
      rfl
    rw [if_pos hne, bind_ok (setBaseUri_ok hc), Forest.withFragment, Forest.fragmentGround,
      if_neg hb]
    rfl

theorem readFragment_ok (config : ReaderConfig) (markup base : String) (hf : f.WellFormed)
    (h : ∀ c ∈ context, c < f.size) :
    readFragment config markup context base f =
      .ok ((f.withFragment config context markup base).childIds f.size)
        (f.withFragment config context markup base) := by
  cases context with
  | none => exact growFragment_ok hf (config.cases, ⟨config.dialect⟩) rfl
  | some c =>
    obtain ⟨n, _, hfind⟩ := find_of_lt (h c rfl)
    have howner : f.ownerDocument c = .ok (f.ownerDocument? c) := by
      simp [ownerDocument, hfind, bind, Except.bind, pure, Except.pure]
    unfold readFragment
    dsimp only
    rw [bind_ok (ask_ok howner)]
    cases ho : f.ownerDocument? c with
    | none =>
      exact growFragment_ok hf (config.cases, ⟨config.dialect⟩) (by simp [fragmentRules, ho])
    | some d => exact growFragment_ok hf (f.rules d) (by simp [fragmentRules, ho])

theorem readFragment_missing {c : NodeId} (h : f.size ≤ c) :
    readFragment config markup (some c) base f = .error (.noSuchNode c) f := by
  have howner : f.ownerDocument c = .error (.noSuchNode c) := by
    simp [ownerDocument, find_of_size_le h, bind, Except.bind]
  unfold readFragment
  dsimp only
  rw [bind_error (ask_error howner)]

end ReadFragment

end MarkupForest
