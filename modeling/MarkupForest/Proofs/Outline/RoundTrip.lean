import MarkupForest.Proofs.Forest.Extension
import MarkupForest.Proofs.Operation.Reachable
import MarkupForest.Proofs.Outline.Growth

namespace MarkupForest

open Forest Growth Text Token

variable {config : ReaderConfig} {manner : Manner} {g h : Growth} {span : Span}
  {below after o : Outline} {tag : String} {as : List Attribute} {f : Forest} {d : NodeId}

theorem Tag.Canonical.tagName (h : Tag.Canonical config.dialect tag) (hstock : config.Stock) :
    config.cases.tagName tag = tag := by
  have hchar : ∀ c, isTagChar c = true → c.toNat < 0x80 ∧ isBlank c = false ∧
      (c.isUpper = false → c.toLower = c) := by
    intro c hc
    exact ⟨isTagChar_lt hc, ascii_induction (P := fun c => isTagChar c = true → isBlank c = false ∧
      (c.isUpper = false → c.toLower = c)) (by decide) (isTagChar_lt hc) hc⟩
  refine CasePolicy.tagName_of_ascii (fun c hc => ?_) fun hk c hc => ?_
  · have h1 := hchar c (h.2.1 c hc)
    exact ⟨h1.1, h1.2.1⟩
  · have hd : config.dialect = .html := by
      rcases hstock with rfl | rfl
      · rfl
      · cases hk
    exact (hchar c (h.2.1 c hc)).2.2 (h.2.2 hd c hc)

theorem label_startTag (tag : String) (hm : manner = ⟨config.cases, config.dialect, none⟩)
    (has : ∀ a ∈ as, a.Canonical config) (hkeys : (as.map Attribute.key).Nodup) :
    (Body.element tag ⟨none, if as.map (·.token config.dialect) = [] then none
      else some (attributesOf manner (as.map (·.token config.dialect)))⟩).label =
      (Label.element tag as).collapsed config.dialect := by
  have hseen := toList_attributesOf hm has hkeys
  cases as with
  | nil => rfl
  | cons a as =>
    show Label.element tag (attributesOf manner _).toList = _
    rw [hseen]
    rfl

namespace Growth

variable (hm : manner = ⟨config.cases, config.dialect, none⟩) (hstock : config.Stock)
include hm

theorem grownBy_raw (hraw : below.IsRaw tag) (hopen : g.Open) :
    GrownBy g ((below.tokens config.dialect).foldl (step manner) g)
      (below.collapsed config.dialect) := by
  have hlines : manner.lines = none := by rw [hm]
  unfold Outline.IsRaw at hraw
  split at hraw
  · exact .refl g
  · exact grownBy_leaf hlines (.data _) hopen rfl
  · exact hraw.elim

include hstock

theorem grownBy_element_tokens (ho : (Outline.node (.element tag as) below after).Canonical config)
    (hbelow : below.Canonical config → ∀ {g : Growth}, g.Open →
      GrownBy g ((below.tokens config.dialect).foldl (step manner) g)
        (below.collapsed config.dialect))
    (hopen : g.Open) :
    GrownBy g (((Label.element tag as).tokensBefore config.dialect below.labels ++
        (below.tokens config.dialect ++
          (Label.element tag as).tokensAfter config.dialect below.labels)).foldl (step manner) g)
      (.node ((Label.element tag as).collapsed config.dialect) (below.collapsed config.dialect)
        .nil) := by
  have hlines : manner.lines = none := by rw [hm]
  have hdialect : manner.dialect = config.dialect := by rw [hm]
  have hname : manner.cases.tagName tag = tag := by rw [hm]; exact ho.1.tagName hstock
  have hlabel := label_startTag tag hm ho.2.1 ho.2.2.1
  rw [← hlabel]
  simp only [Label.tokensBefore, Label.tokensAfter, List.cons_append, List.nil_append,
    List.foldl_cons, List.foldl_append, step, startTag_eq hlines hname, hdialect]
  rcases ho.element_cases with ⟨halone, rfl, hd⟩ | ⟨halone, hstart, hvoid, hcontent⟩
  · have hclosed : (decide (config.dialect = .xml ∧ Outline.nil.labels = []) ||
        (config.dialect == .html && Tag.isVoid tag)) = true := by
      cases hc : config.dialect with
      | html => simpa [hc] using hd
      | xml => rfl
    simp only [hclosed, if_true, halone]
    exact grownBy_leaf hlines _ hopen rfl
  · simp only [hstart, hvoid, Bool.or_self, Bool.false_eq_true, if_false, halone]
    -- the children grow under the open element, which its end tag closes
    generalize hattributes : (if as.map (·.token config.dialect) = [] then none
      else some (attributesOf manner (as.map (·.token config.dialect)))) = attributes
    have hopen' := open_enter hlines tag attributes nowhere hopen
    have hkids : GrownBy (g.enter manner tag attributes nowhere)
        ((below.tokens config.dialect).foldl (step manner)
          (g.enter manner tag attributes nowhere)) (below.collapsed config.dialect) := by
      rcases hcontent with ⟨_, _, hraw⟩ | ⟨_, hb⟩
      · exact grownBy_raw hm hraw hopen'
      · exact hbelow hb hopen'
    have hclose := endTag_eq hlines nowhere hkids.opened hname
    simp only [List.foldl_cons, List.foldl_nil, step, hclose]
    exact grownBy_element hlines hopen hkids

theorem grownBy_tokens (ho : o.Canonical config) (hopen : g.Open) :
    GrownBy g ((o.tokens config.dialect).foldl (step manner) g) (o.collapsed config.dialect) := by
  have hlines : manner.lines = none := by rw [hm]
  induction o generalizing g with
  | nil => exact .refl g
  | node label below after ihb iha =>
    -- first the node with what is below it, then its later siblings
    suffices hnode : GrownBy g ((label.tokensBefore config.dialect below.labels ++
        (below.tokens config.dialect ++ label.tokensAfter config.dialect below.labels)).foldl
          (step manner) g)
        (.node (label.collapsed config.dialect) (below.collapsed config.dialect) .nil) ∧
        after.Canonical config by
      have hrest := iha hnode.2 (hnode.1.isOpen hopen)
      simp only [Outline.tokens, List.foldl_append] at hrest ⊢
      have h := hnode.1
      simp only [List.foldl_append] at h
      exact h.trans hopen hrest
    cases label with
    | element tag as =>
      exact ⟨grownBy_element_tokens hm hstock ho (fun hb _ hg => ihb hb hg) hopen, ho.2.2.2.2⟩
    | text s =>
      obtain ⟨_, rfl, _, hafter⟩ := ho
      exact ⟨grownBy_leaf hlines (.text s) hopen rfl, hafter⟩
    | comment s =>
      obtain ⟨_, rfl, hafter⟩ := ho
      exact ⟨grownBy_leaf hlines (.comment s) hopen rfl, hafter⟩
    | doctype d =>
      obtain ⟨hd, rfl, hafter⟩ := ho
      have hname : ({ d with name := manner.cases.tagName d.name } : Doctype) = d := by
        rw [hm, hd.1]
      refine ⟨?_, hafter⟩
      show GrownBy g
          (g.grow manner (.doctype { d with name := manner.cases.tagName d.name }) nowhere) _
      rw [hname]
      exact grownBy_leaf hlines (.doctype d) hopen rfl
    | data s => exact ho.elim
    | document cases output as => exact ho.elim

end Growth

namespace Forest

theorem outputRules_document {n : Node} {cases : CasePolicy} {output : OutputRules}
    {c : Container} (hn : f.get? d = some n) (hb : n.body = .document cases output c) :
    f.outputRules d = output := by
  have hdocument : f.isDocument d = true := by
    rw [isDocument, hn]
    simp [Node.isDocument, Node.kind, hb, Body.kind]
  have howner : f.ownerDocument? d = some d := by
    rw [ownerDocument?, lineage, climb, List.find?_cons_of_pos hdocument]
  rw [outputRules, rules, howner, Option.bind_some, hn]
  cases n with
  | mk body parent index ranges =>
    simp only at hb
    subst hb
    rfl

theorem outline_plant_at (hstock : config.Stock) (hbelow : below.Canonical config)
    (baseUri : String) (f : Forest) :
    (f.plant config (String.ofList (below.markup config.dialect)) baseUri).outline f.size =
      .node (documentNode config.cases ⟨config.dialect⟩ baseUri).body.label
        (below.collapsed config.dialect) .nil := by
  let node := documentNode config.cases ⟨config.dialect⟩ baseUri
  let start := Growth.start (f.push node) f.size
  let manner : Manner := ⟨config.cases, config.dialect, none⟩
  have htracks : config.tracksPlaces = false := by rcases hstock with rfl | rfl <;> rfl
  have hscan := Outline.map_tokens_markup hbelow
  have hroot : start.forest.get? start.current = some node := by
    show (f.push node).get? f.size = some node
    rw [get?_push, if_pos rfl]
  have hm : manner = ⟨config.cases, config.dialect, none⟩ := rfl
  have hgrown := grownBy_tokens hm hstock hbelow (g := start) ⟨node, hroot, rfl⟩
  have hplant : f.plant config (String.ofList (below.markup config.dialect)) baseUri =
      ((below.tokens config.dialect).foldl (step manner) start).forest := by
    rw [← hscan, foldl_unplaced rfl]
    unfold plant grow
    rw [htracks]
    rfl
  obtain ⟨ids, hshown, hnode⟩ := hgrown.shown
  rw [hroot, Option.map_some] at hnode
  rw [← hplant] at hshown hnode
  have hsize := hgrown.size
  rw [← hplant] at hsize
  have hall := hshown.mono fun i n hi => (since_eq_some_iff.mp hi).2
  have hids : (withChildren ids node).childIds = ids := childIds_withChildren ids rfl
  refine outlineFrom_eq (o := .node _ _ .nil)
    ⟨f.size, [], _, rfl, hnode, label_withChildren ids node, hids.symm ▸ hall, rfl⟩ ?_
  have hstart : start.forest.size = f.size + 1 := size_push f node
  simp only [Outline.size]
  omega

theorem outline_plant (hstock : config.Stock) (hbelow : below.Canonical config) (f : Forest) :
    (f.plant config (String.ofList (below.markup config.dialect)) "").outline f.size =
      .node (.document config.cases ⟨config.dialect⟩ []) (below.collapsed config.dialect) .nil :=
  outline_plant_at hstock hbelow "" f

end Forest

theorem canonical_trees_read_back (hstock : config.Stock) (hf : Reachable f)
    (hd : f.outline d = .node (.document config.cases ⟨config.dialect⟩ []) below .nil)
    (hbelow : below.Canonical config) :
    ∃ markup, f.outerMarkup d = .ok markup ∧
      ∀ g : Forest, ∃ h, readDocument config markup "" g = .ok g.size h ∧
        h.outline g.size =
          .node (.document config.cases ⟨config.dialect⟩ []) (below.collapsed config.dialect)
            .nil := by
  have hlt : d < f.size := by
    by_contra hge
    have hnone := get?_of_size_le (Nat.le_of_not_lt hge)
    rw [outline] at hd
    cases hn : f.size with
    | zero => simp [hn, outlineFrom] at hd
    | succ n => simp [hn, outlineFrom, hnone] at hd
  obtain ⟨hshown, hsize⟩ := hf.wellFormed.shown_outline hlt
  have hrules : f.outputRules d = ⟨config.dialect⟩ := by
    rw [hd] at hshown
    obtain ⟨id, rest, n, hid, hn, hlabel, _⟩ := hshown
    cases hid
    cases hb : n.body with
    | document cases output c =>
      rw [hb, Body.label, Label.document.injEq] at hlabel
      exact (outputRules_document hn hb).trans hlabel.2.1
    | _ => simp [hb, Body.label] at hlabel
  have hmarkup := outerMarkup_eq hshown hsize
  rw [hrules, hd] at hmarkup
  refine ⟨_, hmarkup, fun g => ⟨_, rfl, ?_⟩⟩
  have hwritten : (Outline.node (.document config.cases ⟨config.dialect⟩ []) below .nil).markup
      config.dialect = below.markup config.dialect := by
    simp [Outline.markup, Label.opening, Label.closing]
  rw [hwritten]
  exact outline_plant hstock hbelow g

def note : Forest :=
  runAll Url.resolve (readFragment .html) [.createDocument .folded ⟨.html⟩ "", .createElement "p",
    .createText "a < b", .restructure (.appendChild 0 1), .restructure (.appendChild 1 2),
    .setAttribute 1 "hidden" "hidden"] .empty

theorem canonical_trees_read_back_note :
    Reachable note ∧ ∃ markup, note.outerMarkup 0 = .ok markup ∧
      ∀ g : Forest, ∃ h, readDocument .html markup "" g = .ok g.size h ∧
        h.outline g.size = .node (.document .folded ⟨.html⟩ [])
          (.node (.element "p" [⟨"hidden", none⟩])
              (.node (.text "a < b") .nil .nil) .nil) .nil := by
  have hf : Reachable note := reaches_runAll _
  have hstock : ReaderConfig.html.Stock := .inl rfl
  have hd : note.outline 0 = .node (.document .folded ⟨.html⟩ [])
      (.node (.element "p" [⟨"hidden", some "hidden"⟩]) (.node (.text "a < b") .nil .nil) .nil)
      .nil := by decide
  exact ⟨hf, canonical_trees_read_back hstock hf hd (by decide)⟩

end MarkupForest
