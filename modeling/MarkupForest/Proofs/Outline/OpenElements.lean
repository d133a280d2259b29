import MarkupForest.Proofs.Token.Rereadable

namespace MarkupForest

open Forest Text Token

variable {config : ReaderConfig} {m : Manner} {o : Outline} {label : Label} {tag : String}
  {tags more : List String}

namespace Outline

def Readable (config : ReaderConfig) : Outline → Prop
  | nil => True
  | node (.element tag as) below after => (Label.element tag as).Readable config ∧
      (if config.dialect = .html ∧ Tag.isVoid tag = true then below = nil
        else if config.dialect = .html ∧ Tag.isRawText tag = true then below.IsRaw tag
        else below.Readable config) ∧ after.Readable config
  | node label below after => label.Readable config ∧ below = nil ∧ after.Readable config

def Unfinished (config : ReaderConfig) : Outline → List String → Prop
  | o, [] => o.Readable config
  | nil, _ :: _ => False
  | node label below nil, tag :: tags => (∃ as, label = .element tag as) ∧ label.Readable config ∧
      ¬ (config.dialect = .html ∧ Tag.isVoid tag = true) ∧
      if config.dialect = .html ∧ Tag.isRawText tag = true then below = nil ∧ tags = []
      else below.Unfinished config tags
  | node label below (node label' below' after'), tag :: tags =>
    (node label below nil).Readable config ∧
      (node label' below' after').Unfinished config (tag :: tags)

theorem unfinished_nil : o.Unfinished config [] ↔ o.Readable config := by
  cases o <;> rfl

theorem readable_node {below after : Outline} : (node label below after).Readable config ↔
    (node label below nil).Readable config ∧ after.Readable config := by
  cases label <;> simp [Readable, and_assoc]

theorem readable_leaf (h : label.Readable config) : (node label nil nil).Readable config := by
  cases label with
  | element tag as =>
    refine ⟨h, ?_, trivial⟩
    split
    · rfl
    · split <;> trivial
  | _ => exact ⟨h, rfl, trivial⟩

theorem Unfinished.after {below after : Outline} (hb : (node label below nil).Readable config)
    (ha : after.Unfinished config tags) (hne : after ≠ nil) :
    (node label below after).Unfinished config tags := by
  cases tags with
  | nil => exact unfinished_nil.mpr (readable_node.mpr ⟨hb, unfinished_nil.mp ha⟩)
  | cons tag tags =>
    cases after with
    | nil => exact absurd rfl hne
    | node label' below' after' => exact ⟨hb, ha⟩

theorem Unfinished.close (h : o.Unfinished config (tags ++ more)) : o.Unfinished config tags := by
  induction o generalizing tags more with
  | nil =>
    cases tags with
    | nil => trivial
    | cons tag tags => exact h.elim
  | node label below after ihb iha =>
    cases hall : tags ++ more with
    | nil =>
      rw [(List.append_eq_nil_iff.mp hall).1]
      rwa [hall] at h
    | cons tag rest =>
      rw [hall] at h
      cases after with
      | node label' below' after' =>
        obtain ⟨hl, ha⟩ := h
        rw [← hall] at ha
        exact .after hl (iha ha) (by simp)
      | nil =>
        obtain ⟨⟨as, rfl⟩, hlabel, hvoid, hbelow⟩ := h
        cases tags with
        | nil =>
          refine unfinished_nil.mpr ⟨hlabel, ?_, trivial⟩
          rw [if_neg hvoid]
          split at hbelow
          · next hraw =>
            rw [if_pos hraw, hbelow.1]
            trivial
          · next hraw =>
            rw [if_neg hraw]
            have hopen : below.Unfinished config ([] ++ rest) := hbelow
            exact unfinished_nil.mp (ihb hopen)
        | cons tag' tags =>
          obtain ⟨rfl, rfl⟩ := List.cons.inj hall
          refine ⟨⟨as, rfl⟩, hlabel, hvoid, ?_⟩
          split at hbelow
          · next hraw =>
            rw [if_pos hraw]
            exact ⟨hbelow.1, (List.append_eq_nil_iff.mp hbelow.2).1⟩
          · next hraw =>
            rw [if_neg hraw]
            exact ihb hbelow

theorem Unfinished.readable (h : o.Unfinished config tags) : o.Readable config := by
  have hopen : o.Unfinished config ([] ++ tags) := h
  exact unfinished_nil.mp hopen.close

theorem Unfinished.hang (h : o.Unfinished config tags)
    (hraw : ∀ t ∈ tags, ¬ (config.dialect = .html ∧ Tag.isRawText t = true))
    (hnew : (node label nil nil).Unfinished config more) :
    (o.hang label tags.length).Unfinished config (tags ++ more) := by
  induction o generalizing tags with
  | nil =>
    cases tags with
    | nil => exact hnew
    | cons tag tags => exact h.elim
  | node l below after ihb iha =>
    cases tags with
    | nil =>
      obtain ⟨hl, ha⟩ := readable_node.mp (unfinished_nil.mp h)
      have hhang := iha (unfinished_nil.mpr ha) hraw
      exact .after hl hhang hang_ne_nil
    | cons tag tags =>
      cases after with
      | node label' below' after' => exact .after h.1 (iha h.2 hraw) hang_ne_nil
      | nil =>
        obtain ⟨has, hl, hvoid, hbelow⟩ := h
        have hopen := hraw tag List.mem_cons_self
        rw [if_neg hopen] at hbelow
        refine ⟨has, hl, hvoid, ?_⟩
        rw [if_neg hopen]
        exact ihb hbelow fun t ht => hraw t (List.mem_cons_of_mem tag ht)

theorem Unfinished.hang_raw (h : o.Unfinished config (tags ++ [tag]))
    (hraw : ∀ t ∈ tags, ¬ (config.dialect = .html ∧ Tag.isRawText t = true))
    (htag : config.dialect = .html ∧ Tag.isRawText tag = true)
    (hnew : (node label nil nil).IsRaw tag) :
    (o.hang label (tags.length + 1)).Unfinished config tags := by
  induction o generalizing tags with
  | nil => cases tags <;> exact h.elim
  | node l below after ihb iha =>
    cases after with
    | node label' below' after' =>
      have hparts : (node l below nil).Readable config ∧
          (node label' below' after').Unfinished config (tags ++ [tag]) := by
        cases tags <;> exact h
      exact .after hparts.1 (iha hparts.2 hraw) hang_ne_nil
    | nil =>
      cases tags with
      | nil =>
        obtain ⟨⟨as, rfl⟩, hl, hvoid, hbelow⟩ := h
        rw [if_pos htag] at hbelow
        obtain ⟨rfl, -⟩ := hbelow
        refine unfinished_nil.mpr ⟨hl, ?_, trivial⟩
        rw [if_neg hvoid, if_pos htag]
        exact hnew
      | cons tag' tags =>
        obtain ⟨has, hl, hvoid, hbelow⟩ := h
        have hopen := hraw tag' List.mem_cons_self
        rw [if_neg hopen] at hbelow
        refine ⟨has, hl, hvoid, ?_⟩
        rw [if_neg hopen]
        exact ihb hbelow fun t ht => hraw t (List.mem_cons_of_mem tag' ht)

end Outline

namespace Growth

variable {g : Growth} {f : Forest} {base : NodeId} {root : Label} {t : Token} {ts : List Token}

def openTags (g : Growth) : List String := (g.opened.map Prod.snd).reverse

theorem length_openTags (g : Growth) : g.openTags.length = g.opened.length := by simp [openTags]

theorem opened_step (t : Token) : (g.step m t).opened = (t.follow m (g.forest.size, g.opened)).2 :=
  congrArg Prod.snd (follow_step t)

theorem openTags_step_end (g : Growth) (m : Manner) (n : String) (span : Span) :
    (g.step m (.endTag n span)).openTags <+: g.openTags := by
  rw [openTags, opened_step, openTags, List.reverse_prefix]
  exact (closeNearest_suffix _ _).map Prod.snd

theorem openTags_step_node {body : Body} (hb : t.body? m = some body) :
    (g.step m t).openTags = g.openTags ∨ ∃ n as span, t = .startTag n as false span ∧
      ¬ (m.dialect = .html ∧ Tag.isVoid (m.cases.tagName n) = true) := by
  cases t with
  | endTag n span => cases hb
  | startTag n as alone span =>
    simp only [openTags, opened_step, follow]
    split
    · exact .inl rfl
    · next hopen =>
      simp only [Bool.or_eq_true, Bool.and_eq_true, beq_iff_eq, not_or] at hopen
      exact .inr ⟨n, as, span, by simpa using hopen.1, hopen.2⟩
  | _ => exact .inl rfl

theorem opened_step_startTag {n : String} (as : List TokenAttribute) (span : Span)
    (hvoid : ¬ (m.dialect = .html ∧ Tag.isVoid (m.cases.tagName n) = true)) :
    (g.step m (.startTag n as false span)).opened =
      (g.forest.size, m.cases.tagName n) :: g.opened := by
  rw [opened_step, follow, if_neg (by simpa using hvoid)]

theorem opened_step_endTag {n : String} {span : Span} {id : NodeId}
    {outer : List (NodeId × String)} (h : g.opened = (id, tag) :: outer)
    (htag : m.cases.tagName n = tag) : (g.step m (.endTag n span)).opened = outer := by
  rw [opened_step, h]
  exact closeNearest_of_dropWhile_cons (e := (id, tag)) (by simp [htag])

structure ReadableSoFar (config : ReaderConfig) (base : NodeId) (root : Label) (g : Growth)
    (o : Outline) : Prop where
  inOrder : g.InDocumentOrder base (.node root o .nil)
  unfinished : o.Unfinished config g.openTags
  mixed : ∀ t ∈ g.openTags, ¬ (config.dialect = .html ∧ Tag.isRawText t = true)

namespace ReadableSoFar

variable (h : g.ReadableSoFar config base root o) (hbeside : g.Beside f)
include h

theorem close {n : String} {span : Span} :
    (g.step m (.endTag n span)).ReadableSoFar config base root o := by
  obtain ⟨rest, hrest⟩ := openTags_step_end g m n span
  have hopen := h.unfinished
  rw [← hrest] at hopen
  refine ⟨h.inOrder.close rfl, hopen.close, fun t ht => h.mixed t ?_⟩
  rw [← hrest]
  exact List.mem_append_left rest ht

include hbeside

theorem inDocumentOrder_step {body : Body} (hb : t.body? m = some body) :
    (g.step m t).InDocumentOrder base (.node root (o.hang body.label g.openTags.length) .nil) := by
  rw [length_openTags]
  exact h.inOrder.node hbeside.current.2 hb

theorem leaf {body : Body} (hb : t.body? m = some body)
    (htags : (g.step m t).openTags = g.openTags) (hlabel : body.label.Readable config) :
    (g.step m t).ReadableSoFar config base root (o.hang body.label g.openTags.length) := by
  have hnew := Outline.unfinished_nil.mpr (Outline.readable_leaf hlabel)
  have hhang := h.unfinished.hang h.mixed hnew
  rw [List.append_nil] at hhang
  exact ⟨h.inDocumentOrder_step hbeside hb, htags ▸ hhang, htags ▸ h.mixed⟩

variable (hm : m = ⟨config.cases, config.dialect, none⟩)
include hm

theorem enter {n : String} {as : List TokenAttribute} {span : Span}
    (ht : (Token.startTag n as false span).Readable config m)
    (hvoid : ¬ (m.dialect = .html ∧ Tag.isVoid (m.cases.tagName n) = true)) :
    ∃ o' : Outline,
      (g.step m (.startTag n as false span)).InDocumentOrder base (.node root o' .nil) ∧
      o'.Unfinished config (g.openTags ++ [m.cases.tagName n]) := by
  have hd : m.dialect = config.dialect := by rw [hm]
  refine ⟨_, h.inDocumentOrder_step hbeside rfl, h.unfinished.hang h.mixed ?_⟩
  refine ⟨⟨_, rfl⟩, ht _ rfl, hd ▸ hvoid, ?_⟩
  split
  · exact ⟨rfl, rfl⟩
  · trivial

theorem step (ht : t.Readable config m) (hraw : t.opensRaw m = false) :
    ∃ o', (g.step m t).ReadableSoFar config base root o' := by
  cases hb : t.body? m with
  | none =>
    cases t with
    | endTag n span => exact ⟨o, h.close⟩
    | _ => cases hb
  | some body =>
    rcases openTags_step_node (g := g) hb with htags | ⟨n, as, span, rfl, hvoid⟩
    · exact ⟨_, h.leaf hbeside hb htags (ht body hb)⟩
    · obtain ⟨o', hordered, hopen⟩ := h.enter hbeside hm ht hvoid
      have htags : (g.step m (.startTag n as false span)).openTags =
          g.openTags ++ [m.cases.tagName n] := by
        simp [openTags, opened_step_startTag as span hvoid]
      refine ⟨o', hordered, htags ▸ hopen, fun t ht => ?_⟩
      rw [htags] at ht
      rcases List.mem_append.mp ht with ht | ht
      · exact h.mixed t ht
      · rw [List.mem_singleton.mp ht]
        rintro ⟨hd, hr⟩
        have hd' : m.dialect = .html := by rw [hm, hd]
        rw [opensRaw, hd', hr] at hraw
        cases hraw

theorem rawElement {n stop : String} {as : List TokenAttribute} {span : Span} (stopSpan : Span)
    {content : List Token}
    (ht : (Token.startTag n as false span).Readable config m)
    (hraw : (Token.startTag n as false span).opensRaw m = true)
    (hcontent : RawContent (m.cases.tagName n) content)
    (hstop : m.cases.tagName stop = m.cases.tagName n) :
    ∃ o', ((Token.startTag n as false span :: (content ++ [.endTag stop stopSpan])).foldl
      (Growth.step m) g).ReadableSoFar config base root o' := by
  simp only [opensRaw, Bool.not_false, Bool.and_true, Bool.and_eq_true, beq_iff_eq] at hraw
  have hvoid : ¬ (m.dialect = .html ∧ Tag.isVoid (m.cases.tagName n) = true) := by
    rintro ⟨-, hv⟩
    rw [Tag.isRawText_of_isVoid hv] at hraw
    cases hraw.2
  have hopened := opened_step_startTag (g := g) as span hvoid
  obtain ⟨o', hordered, hopen⟩ := h.enter hbeside hm ht hvoid
  have hbeside' := hbeside.step (m := m) (.startTag n as false span)
  rw [List.foldl_cons, List.foldl_append]
  generalize g.step m (.startTag n as false span) = g' at hopened hordered hbeside' ⊢
  cases hcontent with
  | none =>
    simp only [List.foldl_cons, List.foldl_nil]
    have htags : (g'.step m (.endTag stop stopSpan)).openTags = g.openTags := by
      rw [openTags, opened_step_endTag hopened hstop, openTags]
    exact ⟨o', hordered.close rfl, htags ▸ hopen.close, htags ▸ h.mixed⟩
  | @some s textSpan hs =>
    simp only [List.foldl_cons, List.foldl_nil]
    have hkept : (g'.step m (.rawText s textSpan)).opened = g'.opened := opened_step _
    have htags : ((g'.step m (.rawText s textSpan)).step m (.endTag stop stopSpan)).openTags =
        g.openTags := by
      rw [openTags, opened_step_endTag (hkept.trans hopened) hstop, openTags]
    have hdepth : g'.opened.length = g.openTags.length + 1 := by
      rw [hopened, length_openTags, List.length_cons]
    have hfilled := hordered.node hbeside'.current.2 (t := .rawText s textSpan) (m := m) rfl
    rw [hdepth] at hfilled
    have hd : m.dialect = config.dialect := by rw [hm]
    exact ⟨_, hfilled.close rfl, htags ▸ hopen.hang_raw h.mixed (hd ▸ hraw) hs, htags ▸ h.mixed⟩

theorem run (hts : Rereadable config m ts) :
    ∃ o', (ts.foldl (Growth.step m) g).ReadableSoFar config base root o' := by
  induction hts generalizing g o with
  | nil => exact ⟨o, h⟩
  | cons ht hraw _ ih =>
    obtain ⟨o', h'⟩ := h.step hbeside hm ht hraw
    exact ih h' (hbeside.step _)
  | @raw n stop as span stopSpan content ts ht hraw hcontent hstop _ ih =>
    obtain ⟨o', h'⟩ := h.rawElement hbeside hm stopSpan ht hraw hcontent hstop
    have hsplit : Token.startTag n as false span :: (content ++ .endTag stop stopSpan :: ts) =
        (Token.startTag n as false span :: (content ++ [.endTag stop stopSpan])) ++ ts := by simp
    rw [hsplit, List.foldl_append]
    exact ih h' (hbeside.run _)

end ReadableSoFar

end Growth

theorem readable_plant {f : Forest} {markup : String} (hstock : config.Stock) (baseUri : String)
    (hf : f.WellFormed) (hfree : ∀ t ∈ Token.tokens config.dialect markup,
      t.CollisionFree (config.manner markup)) :
    ∃ below : Outline, below.Readable config ∧ (f.plant config markup baseUri).outline f.size =
      .node (documentNode config.cases ⟨config.dialect⟩ baseUri).body.label below .nil := by
  have hm : config.manner markup = ⟨config.cases, config.dialect, none⟩ := by
    rcases hstock with rfl | rfl <;> rfl
  have hbeside := Growth.beside_atDocument config baseUri hf
  have hstart : (Growth.atDocument config baseUri f).ReadableSoFar config f.size
      (documentNode config.cases ⟨config.dialect⟩ baseUri).body.label .nil :=
    ⟨Growth.inDocumentOrder_atDocument config baseUri f, trivial, by
      simp [Growth.openTags, Growth.atDocument, Growth.start]⟩
  obtain ⟨below, hend⟩ := hstart.run hbeside hm (rereadable_scan hm hstock hfree)
  refine ⟨below, ?_, ?_⟩
  · exact hend.unfinished.readable
  · obtain ⟨hsize, hnumbered⟩ := hend.inOrder.plant
    exact outlineFrom_eq (shown_of_numbered hnumbered) (by omega)

end MarkupForest
