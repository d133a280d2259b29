import MarkupForest.Proofs.Token.Rereadable
import MarkupForest.Proofs.Growth.Ranges

namespace MarkupForest

open Edit Forest Text Token

variable {config : ReaderConfig} {m : Manner} {markup baseUri : String} {source s : List Char}
  {p : Place} {f g : Forest} {x : NodeId} {t : Token} {ts after : List Token} {n : String}

namespace Token

inductive RawPart (n : String) (s : List Char) : List Token → Prop
  | none (h : leading (closes n.toList) s = []) : RawPart n s []
  | some {text : String} {span : Span} (hne : text ≠ "")
    (h : leading (closes n.toList) s = text.toList) : RawPart n s [.rawText text span]

inductive Enclosed (source : List Char) : Token → List Token → Prop
  | mk {n stop : String} {as : List TokenAttribute} {span stopSpan : Span}
    {content more : List Token} (rest : List Char) (hrest : rest <:+ source)
    (hn : ∀ c ∈ n.toList, isTagChar c = true) (hstop : ∀ c ∈ stop.toList, isTagChar c = true)
    (hsame : stop.toList.map Char.toLower = n.toList.map Char.toLower)
    (hcontent : RawPart n rest content) :
    Enclosed source (.startTag n as false span) (content ++ .endTag stop stopSpan :: more)

theorem rawPart_leading (n : String) (s : List Char) (span : Span) : RawPart n s
    (if leading (closes n.toList) s = [] then []
      else [.rawText (String.ofList (leading (closes n.toList) s)) span]) := by
  split
  · next h => exact .none h
  · next h => exact .some (by simpa using h) String.toList_ofList.symm

theorem RawPart.opensRaw {content : List Token} (h : RawPart n s content) :
    ∀ u ∈ content, u.opensRaw m = false := by
  cases h <;> simp [Token.opensRaw]

theorem suffix_of_opensRaw (ht : t.opensRaw m = true) {us : List Token}
    (hus : ∀ u ∈ us, u.opensRaw m = false) (h : t :: after <:+ us ++ ts) : t :: after <:+ ts := by
  induction us with
  | nil => exact h
  | cons u us ih =>
    rcases List.suffix_cons_iff.mp h with he | h
    · cases he
      rw [hus t List.mem_cons_self] at ht
      cases ht
    · exact ih (fun v hv => hus v (List.mem_cons_of_mem u hv)) h

theorem in_read (hp : p.In source) (hrest : p.rest ≠ []) : (read .html p).2.In source := by
  rcases readsTo_read .html hp hrest with h | ⟨_, _, _, _, _, h⟩
  · exact hp.ahead h.ahead
  · exact hp.ahead h.ahead

theorem suffix_of (hp : p.In source) : p.rest <:+ source := by
  obtain ⟨before, hsource, -⟩ := hp
  exact ⟨before, hsource.symm⟩

theorem opensRaw_readRawText : ∀ u ∈ (readRawText n.toList p).1, u.opensRaw m = false := by
  intro u hu
  unfold readRawText at hu
  rcases List.mem_append.mp hu with hu | hu
  · exact (rawPart_leading n p.rest _).opensRaw u hu
  · split at hu
    · rw [List.mem_singleton.mp hu]
      rfl
    · cases hu

theorem enclosed_readRawText {as : List TokenAttribute} {span : Span} (hp : p.In source)
    (hfirst : startsIn Char.isAlpha n.toList = true) (hn : ∀ c ∈ n.toList, isTagChar c = true) :
    Enclosed source (.startTag n as false span)
      ((readRawText n.toList p).1 ++ scan .html (readRawText n.toList p).2) := by
  have hrest : (readRawText n.toList p).2.rest = pastLeading (closes n.toList) p.rest := by
    unfold readRawText
    rw [Place.rest_skip, drop_length_leading]
  have hcontent := rawPart_leading n p.rest
    (p.upTo (p.skip (leading (closes n.toList) p.rest).length))
  by_cases hend : (readRawText n.toList p).2.rest = []
  · unfold readRawText at hend ⊢
    simp only [if_pos hend, String.ofList_toList, List.append_assoc, List.singleton_append]
    exact .mk p.rest (suffix_of hp) hn hn rfl hcontent
  · have hcloses : closes n.toList (readRawText n.toList p).2.rest = true := by
      rw [hrest] at hend ⊢
      exact (pastLeading_cases _ _).resolve_left hend
    obtain ⟨stop, stopSpan, hread, hstop, hsame⟩ := read_closing .html hfirst hn hcloses
    rw [scan_read hend, hread]
    unfold readRawText at hend ⊢
    simp only [if_neg hend, List.append_nil, List.singleton_append]
    exact .mk p.rest (suffix_of hp) hn hstop hsame hcontent

theorem enclosed_startTag (hd : m.dialect = .html) (hp : p.In source) {c : Char}
    (hc : c.isAlpha = true) (h : p.rest = '<' :: c :: s) (ht : t.opensRaw m = true)
    (hsuffix : t :: after <:+
      (readStartTag .html p).1 ++ scan .html (readStartTag .html p).2) :
    Enclosed source t after ∨ t :: after <:+ scan .html (readStartTag .html p).2 := by
  have hinner : (p.skip 1).rest = c :: s := by
    rw [Place.rest_skip, h]
    rfl
  have hfirst : startsIn Char.isAlpha ((p.skip 1).rest.takeWhile isTagChar) = true := by
    rw [hinner, List.takeWhile_cons_of_pos (isTagChar_of_isAlpha hc)]
    exact hc
  have hall : ∀ x ∈ (p.skip 1).rest.takeWhile isTagChar, isTagChar x = true :=
    fun x hx => List.mem_takeWhile_imp hx
  unfold readStartTag at hsuffix ⊢
  dsimp only at hsuffix ⊢
  generalize (p.skip 1).rest.takeWhile isTagChar = name at hfirst hall hsuffix ⊢
  obtain ⟨n, rfl⟩ : ∃ n : String, name = n.toList := ⟨String.ofList name, by simp⟩
  have hnext := (readTagBody_within ((hp.skip 1).skip n.toList.length)).1
  simp only [String.ofList_toList] at hsuffix ⊢
  generalize readTagBody ((p.skip 1).skip n.toList.length) = body at hnext hsuffix ⊢
  split at hsuffix
  · next hraw =>
    rw [if_pos hraw]
    rcases List.suffix_cons_iff.mp hsuffix with he | hsuffix
    · cases he
      rw [hraw.2.1]
      exact .inl (enclosed_readRawText (((hp.skip 1).skip _).ahead hnext) hfirst hall)
    · exact .inr (suffix_of_opensRaw ht opensRaw_readRawText hsuffix)
  · next hraw =>
    rw [if_neg hraw]
    rcases List.suffix_cons_iff.mp hsuffix with he | hsuffix
    · cases he
      simp only [opensRaw, hd, Bool.and_eq_true, beq_iff_eq, Bool.not_eq_true',
        isRawText_tagName _ hall] at ht
      exact absurd ⟨trivial, ht.1.2, ht.2⟩ hraw
    · exact .inr hsuffix

theorem enclosed_scan (hd : m.dialect = .html) (hp : p.In source) (ht : t.opensRaw m = true)
    (h : t :: after <:+ scan .html p) : Enclosed source t after := by
  fun_induction scan .html p with
  | case1 => cases List.suffix_nil.mp h
  | case2 p hrest step ih =>
    have hlater := fun h => ih (in_read hp hrest) h
    have hread := reading .html p
    rw [show read .html p = step from rfl] at hread
    generalize step = step at h hread hlater
    cases hread with
    | text | comment | doctype | bogusComment n | endTag =>
      exact hlater (suffix_of_opensRaw ht (List.forall_mem_singleton.mpr rfl) h)
    | startTag hc hs => exact (enclosed_startTag hd hp hc hs ht h).elim id hlater

theorem nodeCount_cons_some {body : Body} (h : t.body? m = some body) :
    nodeCount m (t :: ts) = nodeCount m ts + 1 := by
  simp [nodeCount, h]

theorem nodeCount_cons_none (h : t.body? m = none) : nodeCount m (t :: ts) = nodeCount m ts := by
  simp [nodeCount, h]

theorem exists_of_lt_nodeCount {k : Nat} (h : k < nodeCount m ts) :
    ∃ before t after body, ts = before ++ t :: after ∧ t.body? m = some body ∧
      nodeCount m before = k := by
  induction ts generalizing k with
  | nil => cases h
  | cons t ts ih =>
    cases hb : t.body? m with
    | some body =>
      rw [nodeCount_cons_some hb] at h
      cases k with
      | zero => exact ⟨[], t, ts, body, rfl, hb, rfl⟩
      | succ k =>
        obtain ⟨before, u, after, b, rfl, hu, hk⟩ := ih (Nat.lt_of_succ_lt_succ h)
        exact ⟨t :: before, u, after, b, rfl, hu, by rw [nodeCount_cons_some hb, hk]⟩
    | none =>
      rw [nodeCount_cons_none hb] at h
      obtain ⟨before, u, after, b, rfl, hu, hk⟩ := ih h
      exact ⟨t :: before, u, after, b, rfl, hu, by rw [nodeCount_cons_none hb, hk]⟩

end Token

namespace Growth

variable {g : Growth}

structure OutOfReach (g : Growth) (x : NodeId) : Prop where
  lt : x < g.forest.size
  root : x ≠ g.root
  opened : ∀ e ∈ g.opened, e.1 ≠ x

theorem OutOfReach.ne_current {g : Growth} (hx : g.OutOfReach x) : x ≠ g.current := by
  unfold current
  split
  · next he => exact (hx.opened _ (he ▸ List.mem_cons_self)).symm
  · exact hx.root

theorem OutOfReach.step (hg : g.Beside f) (hx : g.OutOfReach x) (t : Token) :
    (g.step m t).OutOfReach x ∧ (g.step m t).forest.hung? x = g.forest.hung? x := by
  have hopened : (g.step m t).opened = _ := congrArg Prod.snd (follow_step (g := g) t)
  have hlt := hx.lt
  cases hb : t.body? m with
  | some body =>
    obtain ⟨hsize, hhung⟩ := step_node (g := g) hb
    refine ⟨⟨by rw [hsize]; exact Nat.lt_succ_of_lt hlt, by rw [root_step]; exact hx.root, ?_⟩, ?_⟩
    · rw [hopened]
      rcases Token.follow_node (s := (g.forest.size, g.opened)) hb with h | ⟨tag, h⟩
      · rw [h]
        exact hx.opened
      · rw [h]
        exact List.forall_mem_cons.mpr ⟨Nat.ne_of_gt hlt, hx.opened⟩
    · rw [hhung, hung?_attach_push hg.current_lt, if_neg (Nat.ne_of_lt hlt), if_neg hx.ne_current]
  | none =>
    obtain ⟨hsize, hhung⟩ := step_end (g := g) hb
    refine ⟨⟨by rw [hsize]; exact hlt, by rw [root_step]; exact hx.root, ?_⟩, hhung x⟩
    rw [hopened]
    exact fun e he => hx.opened e ((Token.follow_end hb).subset he)

theorem OutOfReach.run (hg : g.Beside f) (hx : g.OutOfReach x) (ts : List Token) :
    (ts.foldl (Growth.step m) g).forest.hung? x = g.forest.hung? x := by
  induction ts generalizing g with
  | nil => rfl
  | cons t ts ih =>
    obtain ⟨hclosed, hhung⟩ := hx.step hg t
    exact (ih (hg.step t) hclosed).trans hhung

theorem Beside.outOfReach (hg : g.Beside f) {k : Growth} (hroot : k.root = g.root)
    (hopened : ∀ e ∈ k.opened, e ∈ g.opened) (hx : g.forest.size ≤ x) (hlt : x < k.forest.size) :
    k.OutOfReach x where
  lt := hlt
  root := by
    obtain ⟨l, hl⟩ := Option.isSome_iff_exists.mp hg.root.2
    rw [hroot]
    exact Nat.ne_of_gt (Nat.lt_of_lt_of_le (lt_of_childList? hl) hx)
  opened e he := by
    obtain ⟨l, hl⟩ := Option.isSome_iff_exists.mp (hg.opened e (hopened e he)).2
    exact Nat.ne_of_lt (Nat.lt_of_lt_of_le (lt_of_childList? hl) hx)

end Growth

/-- The element holds just the text up to the first end tag of its name, in any case. -/
def Forest.EnclosesText (g : Forest) (source : List Char) (x : NodeId) (tag : String) : Prop :=
  g.childIds x = [] ∨ ∃ d text rest, g.childIds x = [d] ∧ g.hung? d = some (some x, .data text) ∧
    rest <:+ source ∧ leading (closes tag.toList) rest = text.toList ∧
    ∀ v, v <:+ text.toList → closes tag.toList v = true → v.length = tag.toList.length + 2

/-- Names keep their case, and the end tag found for the element is not spelt as its start tag. -/
structure EndTagMisspelt (config : ReaderConfig) (markup : String) (f : Forest) (x : NodeId)
    (tag : String) : Prop where
  keeps : config.cases.keepsTags = true
  tokens : ∃ before n as span content stop stopSpan after,
    Token.tokens config.dialect markup =
      before ++ .startTag n as false span :: (content ++ .endTag stop stopSpan :: after) ∧
    config.cases.tagName n = tag ∧ (content = [] ∨ ∃ s span, content = [.rawText s span]) ∧
    stop ≠ n ∧ sameLetters stop n = true ∧
    x = f.size + 1 + Token.nodeCount (config.manner markup) before ∧
    Token.innermost (config.manner markup) f.size
      (before ++ .startTag n as false span :: (content ++ [.endTag stop stopSpan])) = x

theorem Forest.EnclosesText.congr {k : Forest} {tag : String} (h : g.EnclosesText source x tag)
    (hx : k.hung? x = g.hung? x) (hd : ∀ d ∈ g.childIds x, k.hung? d = g.hung? d) :
    k.EnclosesText source x tag := by
  have hchildren : k.childIds x = g.childIds x := by rw [childIds_eq_hung?, hx, childIds_eq_hung?]
  rcases h with h | ⟨d, text, rest, hids, hdata, h⟩
  · exact .inl (hchildren.trans h)
  · have hsame := hd d (by rw [hids]; exact List.mem_singleton_self d)
    exact .inr ⟨d, text, rest, hchildren.trans hids, hsame.trans hdata, h⟩

namespace Growth

variable {g : Growth} {outer : List (NodeId × String)} {tag : String} {content : List Token}

theorem encloses_content (hg : g.Beside f) (hopened : g.opened = (x, m.cases.tagName n) :: outer)
    (hchildren : g.forest.childIds x = []) (hs : s <:+ source)
    (hn : ∀ c ∈ n.toList, isTagChar c = true) (hcontent : RawPart n s content) :
    (content.foldl (Growth.step m) g).opened = g.opened ∧
      (content.foldl (Growth.step m) g).forest.EnclosesText source x (m.cases.tagName n) ∧
      ∀ d ∈ (content.foldl (Growth.step m) g).forest.childIds x, g.forest.size ≤ d := by
  cases hcontent with
  | none => exact ⟨rfl, .inl hchildren, by simp [hchildren]⟩
  | @some text span hne htext =>
    have hb : (Token.rawText text span).body? m = some (.data text) := rfl
    have hcurrent : g.current = x := by rw [current_eq_headD, hopened]; rfl
    have hlt : x ≠ g.forest.size := hcurrent ▸ Nat.ne_of_lt hg.current_lt
    have hids : (g.step m (.rawText text span)).forest.childIds x = [g.forest.size] := by
      rw [childIds_step hg hb, if_neg hlt, if_pos hcurrent.symm, hcurrent, hchildren,
        List.nil_append]
    have hdata : (g.step m (.rawText text span)).forest.hung? g.forest.size =
        some (some x, .data text) := by
      rw [(step_node hb).2, hung?_attach_push hg.current_lt, if_pos rfl, hcurrent]
    have hraw := isRaw_leading (s := s) m.cases hn (by simpa [htext] using hne)
    rw [htext, String.ofList_toList] at hraw
    refine ⟨rfl, .inr ⟨_, text, s, hids, hdata, hs, ?_, fun v hv => hraw.2 v (by simpa using hv)⟩,
      fun d hd => ?_⟩
    · rw [show closes (m.cases.tagName n).toList = closes n.toList from
        funext fun _ => closes_tagName m.cases hn, htext]
    · rw [List.foldl_cons, List.foldl_nil, hids] at hd
      exact Nat.le_of_eq (List.mem_singleton.mp hd).symm

theorem encloses_run (hg : g.Beside f) (hx : g.OutOfReach x)
    (hd : ∀ d ∈ g.forest.childIds x, g.OutOfReach d) (h : g.forest.EnclosesText source x tag)
    (ts : List Token) : (ts.foldl (Growth.step m) g).forest.EnclosesText source x tag :=
  h.congr (hx.run hg ts) fun d hmem => (hd d hmem).run hg ts

structure OpensElement (g : Growth) (x : NodeId) (tag : String) (k : Growth) : Prop where
  here : g.forest.size = x
  size : k.forest.size = x + 1
  root : k.root = g.root
  opened : k.opened = (x, tag) :: g.opened
  children : k.forest.childIds x = []

theorem opens_or_closed (hg : g.Beside f) (hx : g.forest.size = x) (hd : m.dialect = .html)
    (hraw : Tag.isRawText (m.cases.tagName n) = true) (as : List TokenAttribute) (alone : Bool)
    (span : Span) :
    (Token.startTag n as alone span).opensRaw m = true ∧ alone = false ∧
        g.OpensElement x (m.cases.tagName n) (g.step m (.startTag n as alone span)) ∨
      ∀ ts : List Token, (ts.foldl (Growth.step m)
        (g.step m (.startTag n as alone span))).forest.childIds x = [] := by
  have hb : (Token.startTag n as alone span).body? m = some _ := rfl
  have hsize := (step_node (g := g) hb).1
  rw [hx] at hsize
  have hchildren := childIds_step hg hb x
  rw [if_pos hx.symm] at hchildren
  have hopened : (g.step m (.startTag n as alone span)).opened = _ :=
    congrArg Prod.snd (follow_step (g := g) (.startTag n as alone span))
  have hroot := root_step (g := g) (m := m) (.startTag n as alone span)
  simp only [Token.follow] at hopened
  split at hopened
  · refine .inr fun ts => ?_
    have hclosed := hg.outOfReach hroot (fun e he => hopened ▸ he) (Nat.le_of_eq hx)
      (Nat.lt_of_lt_of_eq (Nat.lt_succ_self x) hsize.symm)
    rw [childIds_eq_hung?, hclosed.run (hg.step _) ts, ← childIds_eq_hung?, hchildren]
  · next halone =>
    rw [hx] at hopened
    simp only [Bool.or_eq_true, not_or, Bool.not_eq_true] at halone
    refine .inl ⟨?_, halone.1, hx, hsize, hroot, hopened, hchildren⟩
    simp [Token.opensRaw, hd, halone.1, hraw]

theorem encloses_or_open {k : Growth} (hg : g.Beside f) (hk : k.Beside f)
    (ho : g.OpensElement x (m.cases.tagName n) k) (hs : s <:+ source)
    (hn : ∀ c ∈ n.toList, isTagChar c = true) (hcontent : RawPart n s content)
    (stop : String) (stopSpan : Span) (more : List Token) :
    ((content ++ Token.endTag stop stopSpan :: more).foldl (Growth.step m) k).forest.EnclosesText
        source x (m.cases.tagName n) ∨
      m.cases.tagName stop ≠ m.cases.tagName n ∧
        ((content ++ [Token.endTag stop stopSpan]).foldl (Growth.step m) k).current = x := by
  obtain ⟨hsame, hholds, hnew⟩ := encloses_content hk ho.opened ho.children hs hn hcontent
  have hordered := hk.run (m := m) content
  have hsizes := size_run (m := m) (g := k) content
  have hroots := root_run (m := m) (g := k) content
  rw [List.foldl_append, List.foldl_append, List.foldl_cons, List.foldl_cons, List.foldl_nil]
  generalize content.foldl (Growth.step m) k = l at *
  obtain ⟨hsize', hhung⟩ := step_end (g := l) (m := m) (t := .endTag stop stopSpan) rfl
  have hclosing : (l.step m (.endTag stop stopSpan)).opened =
      Token.closeNearest (m.cases.tagName stop) l.opened :=
    congrArg Prod.snd (follow_step (g := l) (.endTag stop stopSpan))
  have hroot' := root_step (g := l) (m := m) (.endTag stop stopSpan)
  have hordered' := hordered.step (m := m) (.endTag stop stopSpan)
  have hsuffix := Token.closeNearest_suffix (m.cases.tagName stop) l.opened
  rw [← hclosing, hsame, ho.opened] at hsuffix
  generalize l.step m (.endTag stop stopSpan) = l' at *
  rcases List.suffix_cons_iff.mp hsuffix with he | hsuffix
  · refine .inr ⟨fun htag => ?_, by rw [current_eq_headD, he]; rfl⟩
    have hcloses : Token.closeNearest (m.cases.tagName stop) l.opened = g.opened := by
      rw [hsame, ho.opened, htag]
      exact Token.closeNearest_of_dropWhile_cons (List.dropWhile_cons_of_neg (by simp))
    rw [← hclosing, he] at hcloses
    exact absurd (congrArg List.length hcloses) (by simp)
  · have hlast : l'.root = g.root := by rw [hroot', hroots, ho.root]
    have hclosed : ∀ d, x ≤ d → d < l'.forest.size → l'.OutOfReach d := fun d hd hlt =>
      hg.outOfReach hlast (fun e he => hsuffix.subset he) (ho.here.trans_le hd) hlt
    have hgrown : x + 1 ≤ l'.forest.size := by
      rw [hsize', hsizes, ho.size]
      exact Nat.le_add_right _ _
    refine .inl (encloses_run hordered' (hclosed x (Nat.le_refl x) hgrown) (fun d hd => ?_)
      (hholds.congr (hhung x) fun d _ => hhung d) more)
    have hlt := lt_of_parent? (hordered'.wellFormed.mem_iff.mp hd)
    rw [childIds_of_hung? hhung] at hd
    have hge := hnew d hd
    rw [ho.size] at hge
    exact hclosed d (Nat.le_of_succ_le hge) hlt

end Growth

theorem startTag_of_body? {tag : String} {c : Container} (h : t.body? m = some (.element tag c)) :
    ∃ n as alone span, t = .startTag n as alone span ∧ m.cases.tagName n = tag := by
  cases t with
  | startTag n as alone span =>
    cases h
    exact ⟨n, as, alone, span, rfl, rfl⟩
  | _ => cases h

theorem endTagMisspelt_of_open {before content more : List Token} {stop : String}
    {as : List TokenAttribute} {span stopSpan : Span}
    (hts : Token.tokens config.dialect markup =
      before ++ .startTag n as false span :: (content ++ .endTag stop stopSpan :: more))
    (hn : ∀ c ∈ n.toList, isTagChar c = true) (hstop : ∀ c ∈ stop.toList, isTagChar c = true)
    (hsame : stop.toList.map Char.toLower = n.toList.map Char.toLower)
    (hcontent : RawPart n s content) (hne : config.cases.tagName stop ≠ config.cases.tagName n)
    (hx : x = f.size + 1 + nodeCount (config.manner markup) before)
    (hopen : Token.innermost (config.manner markup) f.size
      (before ++ .startTag n as false span :: (content ++ [.endTag stop stopSpan])) = x) :
    EndTagMisspelt config markup f x (config.cases.tagName n) := by
  have hkeeps : config.cases.keepsTags = true := by
    by_contra hfolds
    have hfolds : (config.manner markup).cases.keepsTags = false := Bool.not_eq_true _ ▸ hfolds
    exact hne (tagName_eq_of_sameLetters hfolds hstop hn hsame)
  refine ⟨hkeeps, before, n, as, span, content, stop, stopSpan, more, hts, rfl, ?_,
    fun h => hne (congrArg _ h), sameLetters_iff.mpr hsame, hx, hopen⟩
  cases hcontent with
  | none => exact .inl rfl
  | some => exact .inr ⟨_, _, rfl⟩

theorem encloses_or_endTagMisspelt {before after : List Token} {as : List TokenAttribute}
    {alone : Bool} {span : Span} (hf : f.WellFormed) (hd : config.dialect = .html)
    (hts : Token.tokens config.dialect markup = before ++ .startTag n as alone span :: after)
    (hraw : Tag.isRawText (config.cases.tagName n) = true)
    (hx : x = f.size + 1 + nodeCount (config.manner markup) before) :
    (f.plant config markup baseUri).EnclosesText markup.toList x (config.cases.tagName n) ∨
      EndTagMisspelt config markup f x (config.cases.tagName n) := by
  let m := config.manner markup
  have hg := (Growth.beside_atDocument config baseUri hf).run (m := m) before
  have hbefore := Growth.size_run (m := m) (g := Growth.atDocument config baseUri f) before
  rw [Growth.size_atDocument, ← hx] at hbefore
  -- the growth over all tokens tells what the nodes become in the end
  have hend : (after.foldl (Growth.step m) ((before.foldl (Growth.step m)
      (Growth.atDocument config baseUri f)).step m (.startTag n as alone span))).forest.EnclosesText
        markup.toList x (config.cases.tagName n) →
      (f.plant config markup baseUri).EnclosesText markup.toList x (config.cases.tagName n) := by
    have hplant : ∀ y, (f.plant config markup baseUri).hung? y = _ := hung?_plant
    simp only [hts, List.foldl_append, List.foldl_cons] at hplant
    exact fun h => h.congr (hplant x) fun d _ => hplant d
  refine Or.imp_left hend ?_
  have hcurrent : ∀ ts, Token.innermost m f.size (before ++ .startTag n as alone span :: ts) =
      (ts.foldl (Growth.step m) ((before.foldl (Growth.step m)
        (Growth.atDocument config baseUri f)).step m (.startTag n as alone span))).current := by
    intro ts
    rw [← Growth.current_run m config baseUri f, List.foldl_append, List.foldl_cons]
  generalize before.foldl (Growth.step m) (Growth.atDocument config baseUri f) = g at *
  rcases Growth.opens_or_closed (m := m) hg hbefore hd hraw as alone span with
    ⟨hopens, rfl, ho⟩ | hclosed
  · have hsuffix :
        Token.startTag n as false span :: after <:+ Token.scan .html (.start markup.toList) :=
      ⟨before, by rw [← hd]; exact hts.symm⟩
    cases Token.enclosed_scan hd (Place.in_start _) hopens hsuffix with
    | @mk _ stop _ _ stopSpan content more rest hrest hn hstop hsame hcontent =>
      rcases Growth.encloses_or_open hg (hg.step _) ho hrest hn hcontent stop stopSpan more
        with h | ⟨hne, hopen⟩
      · exact .inl h
      · refine .inr (endTagMisspelt_of_open hts hn hstop hsame hcontent hne hx ?_)
        rw [hcurrent]
        exact hopen
  · exact .inl (.inl (hclosed after))

theorem element_of_hollow {b : Body} {tag : String} {c : Container}
    (h : (Body.element tag c).hollow = b) : ∃ c', b = .element tag c' := by
  cases h
  exact ⟨_, rfl⟩

theorem raw_text_is_enclosed (h : Reachable f) (hd : config.dialect = .html)
    (markup baseUri : String) :
    ∃ g ids, readDocument config markup baseUri f = .ok f.size g ∧ g.descendants f.size = .ok ids ∧
      ∀ x ∈ ids, ∀ q tag c, g.hung? x = some (q, .element tag c) → Tag.isRawText tag = true →
        g.EnclosesText markup.toList x tag ∨ EndTagMisspelt config markup f x tag := by
  have hg : Planted config markup baseUri f (f.plant config markup baseUri) :=
    planted_plant h.wellFormed
  refine ⟨_, _, rfl, hg.order, fun x hx q tag c he hraw => ?_⟩
  rw [List.mem_range'_1] at hx
  rcases Nat.lt_or_eq_of_le hx.1 with hnew | rfl
  · obtain ⟨k, rfl⟩ := Nat.exists_eq_add_of_le hnew
    have hk : k < nodeCount (config.manner markup) (Token.tokens config.dialect markup) := by
      have hsize := hg.size
      omega
    obtain ⟨before, t, after, body, hts, hbody, rfl⟩ := Token.exists_of_lt_nodeCount hk
    obtain ⟨b, hb, hhollow⟩ := hg.node before t after body hts hbody
    rw [he, Option.some_inj, Prod.mk.injEq] at hb
    obtain ⟨c', rfl⟩ := element_of_hollow (hb.2 ▸ hhollow)
    obtain ⟨n, as, alone, span, rfl, rfl⟩ := startTag_of_body? hbody
    exact encloses_or_endTagMisspelt h.wellFormed hd hts hraw rfl
  · -- the document itself is no element
    obtain ⟨b, hb, hhollow⟩ := hg.document
    rw [he, Option.some_inj, Prod.mk.injEq] at hb
    rw [← hb.2] at hhollow
    cases hhollow

theorem raw_text_is_enclosed_twoLists :
    Reachable twoLists ∧ ReaderConfig.html.dialect = .html ∧ ∃ g ids,
      readDocument .html "<script>a</SCRIPT><p>" "" twoLists = .ok 6 g ∧
        g.descendants 6 = .ok ids ∧
        ∀ x ∈ ids, ∀ q tag c, g.hung? x = some (q, .element tag c) → Tag.isRawText tag = true →
          g.EnclosesText "<script>a</SCRIPT><p>".toList x tag ∨
            EndTagMisspelt .html "<script>a</SCRIPT><p>" twoLists x tag := by
  have h : Reachable twoLists := reaches_runAll _
  exact ⟨h, rfl, raw_text_is_enclosed h rfl _ _⟩

example : (empty.plant .html "<script>a</SCRIPT><p>" "").childIds 1 = [2] ∧
    (empty.plant ⟨.exact, .html, false⟩ "<script>a</SCRIPT><p>" "").childIds 1 = [2, 3] := by
  decide +kernel

example : (empty.plant .html "<script></script</script>" "").leaf? 2 =
    some (.data "</script", []) := by
  decide +kernel

end MarkupForest
