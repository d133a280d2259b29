import MarkupForest.Proofs.Token.Lexing
import MarkupForest.Proofs.Text.Slices
import Mathlib.Data.List.Chain

namespace MarkupForest

open Text

variable {dialect : Dialect} {source piece s t : List Char} {p q : Place} {c : Char}

namespace TokenAttribute

def Faithful (source : List Char) (a : TokenAttribute) : Prop :=
  a.nameSpan.slice? source = some a.name.toList ∧
    match a.value with
    | some value => ∃ raw, a.valueSpan.slice? source = some raw ∧
        value.toList = Reference.decode raw
    | none => a.valueSpan = ⟨a.nameSpan.stop, a.nameSpan.stop⟩

def spans (as : List TokenAttribute) : List Span := as.flatMap fun a => [a.nameSpan, a.valueSpan]

end TokenAttribute

namespace Token

variable {ts us : List Token} {a b n : Nat}

def isText : Token → Bool
  | .text _ _ => true
  | _ => false

def Says (source piece : List Char) : Token → Prop
  | .startTag name as _ span => '<' :: name.toList <+: piece ∧
      (∀ a ∈ as, a.Faithful source) ∧ Span.InOrder span.start (TokenAttribute.spans as) span.stop
  | .endTag name _ => piece = [] ∨ '<' :: '/' :: name.toList <+: piece
  | .text s _ => s.toList = Reference.decode piece
  | .rawText s _ => s.toList = piece
  | .comment s _ => s.toList <:+: piece
  | .doctype d _ => d.name.toList <:+: piece ∧ d.publicId.toList <:+: piece ∧
      d.systemId.toList <:+: piece

def Faithful (source : List Char) (t : Token) : Prop :=
  ∃ piece, t.span.slice? source = some piece ∧ t.Says source piece

def Cover : Nat → List Token → Nat → Prop
  | start, [], stop => start = stop
  | start, t :: ts, stop => t.span.start = start ∧ Cover t.span.stop ts stop

/-- The end tag supplied for raw text that the source leaves open. -/
def Supplied (dialect : Dialect) (size : Nat) (ts : List Token) (t : Token) : Prop :=
  dialect = .html ∧ ∃ before name as span content, Tag.isRawText name = true ∧
    (content = [] ∨ ∃ s span, content = [.rawText s span]) ∧ t = .endTag name ⟨size, size⟩ ∧
    ts = before ++ .startTag name as false span :: (content ++ [t])

theorem Cover.append (h : Cover a ts b) (h' : Cover b us n) : Cover a (ts ++ us) n := by
  induction ts generalizing a with
  | nil => exact h ▸ h'
  | cons t ts ih => exact ⟨h.1, ih h.2⟩

theorem Supplied.prepend {t : Token} (h : Supplied dialect n ts t) (us : List Token) :
    Supplied dialect n (us ++ ts) t := by
  obtain ⟨hd, before, name, as, span, content, hraw, hcontent, ht, rfl⟩ := h
  exact ⟨hd, us ++ before, name, as, span, content, hraw, hcontent, ht, by rw [List.append_assoc]⟩

inductive ReadNext (dialect : Dialect) (p : Place) : List Token × Place → Prop
  | text (h : opensMarkup p.rest = false) : ReadNext dialect p ([(readText p).1], (readText p).2)
  | comment : ReadNext dialect p ([(readComment p).1], (readComment p).2)
  | doctype : ReadNext dialect p ([(readDoctype p).1], (readDoctype p).2)
  | bogusComment (n : Nat) :
    ReadNext dialect p ([(readBogusComment (n + 1) p).1], (readBogusComment (n + 1) p).2)
  | endTag {c : Char} {s : List Char} (hc : c.isAlpha = true) (h : p.rest = '<' :: '/' :: c :: s) :
    ReadNext dialect p ([(readEndTag p).1], (readEndTag p).2)
  | startTag {c : Char} {s : List Char} (hc : c.isAlpha = true) (h : p.rest = '<' :: c :: s) :
    ReadNext dialect p (readStartTag dialect p)

theorem opensMarkup_cases (h : opensMarkup s = true) : declarationStart <+: s ∨
    instructionStart <+: s ∨ (∃ c t, c.isAlpha = true ∧ s = '<' :: '/' :: c :: t) ∨
      ∃ c t, c.isAlpha = true ∧ s = '<' :: c :: t := by
  unfold opensMarkup at h
  split at h
  · exact .inl ⟨_, rfl⟩
  · exact .inr (.inl ⟨_, rfl⟩)
  · exact .inr (.inr (.inl ⟨_, _, h, rfl⟩))
  · exact .inr (.inr (.inr ⟨_, _, h, rfl⟩))
  · cases h

theorem reading (dialect : Dialect) (p : Place) : ReadNext dialect p (read dialect p) := by
  unfold read
  dsimp only
  split
  · next h => exact .text (by simpa using h)
  · next h =>
    have hopens : opensMarkup p.rest = true := by simpa using h
    repeat' split
    · exact .comment
    · exact .doctype
    · exact .bogusComment 1
    · exact .bogusComment 0
    · next hbang hask hend =>
      rw [List.isPrefixOf_iff_prefix] at hbang hask hend
      rcases opensMarkup_cases hopens with h | h | ⟨c, t, hc, h⟩ | ⟨c, t, hc, h⟩
      · exact absurd h hbang
      · exact absurd h hask
      · exact .endTag hc h
      · rw [h] at hend
        simp only [endTagStart, List.cons_prefix_cons] at hend
        exact absurd hc (hend.2.1 ▸ by decide)
    · next hbang hask hend =>
      rw [List.isPrefixOf_iff_prefix] at hbang hask hend
      rcases opensMarkup_cases hopens with h | h | ⟨c, t, hc, h⟩ | ⟨c, t, hc, h⟩
      · exact absurd h hbang
      · exact absurd h hask
      · exact absurd ⟨_, h.symm⟩ hend
      · exact .startTag hc h

structure Reads (source : List Char) (p : Place) (ts : List Token) (q : Place) : Prop where
  ahead : p.Ahead q
  cover : Cover p.offset ts q.offset
  faithful : ∀ t ∈ ts, t.Faithful source
  filled : ∀ t ∈ ts, t.span.start < t.span.stop

theorem Reads.refl (source : List Char) (p : Place) : Reads source p [] p :=
  ⟨.refl p, rfl, by simp, by simp⟩

theorem Reads.trans {r : Place} (h : Reads source p ts q) (h' : Reads source q us r) :
    Reads source p (ts ++ us) r where
  ahead := h.ahead.trans h'.ahead
  cover := h.cover.append h'.cover
  faithful t ht := (List.mem_append.mp ht).elim (h.faithful t) (h'.faithful t)
  filled t ht := (List.mem_append.mp ht).elim (h.filled t) (h'.filled t)

def ReadsTo (dialect : Dialect) (source : List Char) (p : Place) (ts : List Token)
    (q : Place) : Prop :=
  Reads source p ts q ∨ ∃ front t, ts = front ++ [t] ∧ q.rest = [] ∧
    Supplied dialect (width source) ts t ∧ Reads source p front q

theorem reads_one {t : Token} {n : Nat} (hp : p.In source) (hrest : p.rest ≠ [])
    (hq : q = p.skip (n + 1)) (hspan : t.span = p.upTo q)
    (ht : t.Says source (p.rest.take (n + 1))) : Reads source p [t] q where
  ahead := ⟨n + 1, hq⟩
  cover := by
    rw [Cover, Cover, hspan]
    exact ⟨rfl, rfl⟩
  faithful u hu := by
    rw [List.mem_singleton.mp hu]
    exact ⟨_, by rw [hspan, hq, hp.slice?_skip], ht⟩
  filled u hu := by
    rw [List.mem_singleton.mp hu, hspan, hq]
    exact Place.offset_lt_skip hrest n

theorem isPrefix_leading (stop : List Char → Bool) (s : List Char) : leading stop s <+: s :=
  ⟨pastLeading stop s, leading_append_pastLeading stop s⟩

theorem prefix_take (h : piece <+: s) {n : Nat} (hn : piece.length ≤ n) : piece <+: s.take n := by
  rw [List.prefix_take_iff]
  exact ⟨h, hn⟩

theorem infix_take {n : Nat} (h : piece <+: s.drop n) (m : Nat) :
    piece <:+: s.take (n + (piece.length + m)) := by
  rw [List.take_add]
  exact (prefix_take h (Nat.le_add_right _ _)).isInfix.trans (List.suffix_append _ _).isInfix

theorem reads_text (hp : p.In source) (hrest : p.rest ≠ []) :
    Reads source p [(readText p).1] (readText p).2 := by
  obtain ⟨c, s, hs⟩ := List.exists_cons_of_ne_nil hrest
  have hraw :
      p.rest.take 1 ++ leading opensMarkup (p.rest.drop 1) = c :: leading opensMarkup s := by
    rw [hs]
    rfl
  have hpre : c :: leading opensMarkup s <+: p.rest := by
    rw [hs, List.cons_prefix_cons]
    exact ⟨rfl, isPrefix_leading opensMarkup s⟩
  unfold readText
  rw [hraw]
  refine reads_one hp hrest rfl rfl ?_
  rw [← List.length_cons, ← List.prefix_iff_eq_take.mp hpre]
  exact String.toList_ofList

theorem reads_between {t : Token} {n m : Nat} (hp : p.In source) (hrest : p.rest ≠ [])
    (hs : s <+: p.rest.drop (n + 1))
    (hspan : t.span = p.upTo ((p.skip (n + 1)).skip (s.length + m)))
    (ht : ∀ piece, s <:+: piece → t.Says source piece) :
    Reads source p [t] ((p.skip (n + 1)).skip (s.length + m)) := by
  have hlen : n + 1 + (s.length + m) = n + (s.length + m) + 1 := by omega
  refine reads_one hp hrest ((Place.skip_skip _ _ p).trans (by rw [hlen])) hspan (ht _ ?_)
  rw [← hlen]
  exact infix_take hs m

theorem reads_comment (hp : p.In source) (hrest : p.rest ≠ []) :
    Reads source p [(readComment p).1] (readComment p).2 := by
  refine reads_between hp hrest (isPrefix_leading commentEnd.isPrefixOf _) rfl fun piece h => ?_
  rw [← String.toList_ofList (l := leading _ _)] at h
  exact h

theorem reads_bogusComment {n : Nat} (hp : p.In source) (hrest : p.rest ≠ []) :
    Reads source p [(readBogusComment (n + 1) p).1] (readBogusComment (n + 1) p).2 := by
  refine reads_between hp hrest (List.takeWhile_prefix _) rfl fun piece h => ?_
  rw [← String.toList_ofList (l := List.takeWhile _ _)] at h
  exact h

theorem quoted_infix (s : List Char) :
    (Doctype.quoted s).1 <:+: s ∧ (Doctype.quoted s).2 <:+ s := by
  have hs := trimStart_isSuffix s
  unfold Doctype.quoted
  split
  · exact ⟨List.nil_infix, List.nil_suffix⟩
  · next c body h =>
    rw [h] at hs
    have hbody : body <:+ s := (List.suffix_cons c body).trans hs
    split
    · refine ⟨(List.takeWhile_prefix _).isInfix.trans hbody.isInfix, ?_⟩
      exact ((List.drop_suffix _ _).trans (List.dropWhile_suffix _)).trans hbody
    · exact ⟨List.nil_infix, hs⟩

theorem identifiers_infix (s : List Char) :
    (Doctype.identifiers s).1 <:+: s ∧ (Doctype.identifiers s).2 <:+: s := by
  have hdrop (n : Nat) : s.drop n <:+ s := List.drop_suffix n s
  unfold Doctype.identifiers
  split
  · have hfirst := quoted_infix (s.drop Doctype.publicWord.length)
    have hsecond := quoted_infix (Doctype.quoted (s.drop Doctype.publicWord.length)).2
    refine ⟨hfirst.1.trans (hdrop _).isInfix, ?_⟩
    exact hsecond.1.trans (hfirst.2.trans (hdrop _)).isInfix
  · split
    · have hfirst := quoted_infix (s.drop Doctype.systemWord.length)
      exact ⟨List.nil_infix, hfirst.1.trans (hdrop _).isInfix⟩
    · exact ⟨List.nil_infix, List.nil_infix⟩

theorem ofContent_infix (s : List Char) : (Doctype.ofContent s).name.toList <:+: s ∧
    (Doctype.ofContent s).publicId.toList <:+: s ∧
        (Doctype.ofContent s).systemId.toList <:+: s := by
  have hs := trimChars_isInfix s
  have hafter := (trimStart_isSuffix ((trimChars s).dropWhile (!isGap ·))).trans
    (List.dropWhile_suffix _)
  have hids := identifiers_infix (trimStart ((trimChars s).dropWhile (!isGap ·)))
  simp only [Doctype.ofContent, String.toList_ofList]
  refine ⟨(List.takeWhile_prefix _).isInfix.trans hs, ?_, ?_⟩
  · exact (hids.1.trans hafter.isInfix).trans hs
  · exact (hids.2.trans hafter.isInfix).trans hs

theorem reads_doctype (hp : p.In source) (hrest : p.rest ≠ []) :
    Reads source p [(readDoctype p).1] (readDoctype p).2 := by
  refine reads_between hp hrest (List.takeWhile_prefix _) rfl fun piece h => ?_
  obtain ⟨hname, hpublic, hsystem⟩ := ofContent_infix
    ((p.skip doctypeStart.length).rest.takeWhile (· != '>'))
  exact ⟨hname.trans h, hpublic.trans h, hsystem.trans h⟩

theorem takeWhile_prefix_takeWhile {f g : Char → Bool} (h : ∀ c, f c = true → g c = true)
    (s : List Char) : s.takeWhile f <+: s.takeWhile g := by
  induction s with
  | nil => exact List.prefix_rfl
  | cons c s ih =>
    by_cases hc : f c = true
    · rw [List.takeWhile_cons_of_pos hc, List.takeWhile_cons_of_pos (h c hc), List.cons_prefix_cons]
      exact ⟨rfl, ih⟩
    · rw [List.takeWhile_cons_of_neg hc]
      exact List.nil_prefix

theorem reads_endTag (hp : p.In source) (h : p.rest = '<' :: '/' :: s) :
    Reads source p [(readEndTag p).1] (readEndTag p).2 := by
  have hname : s.takeWhile isTagChar <+: s.takeWhile (· != '>') := by
    refine takeWhile_prefix_takeWhile (fun c hc => ?_) s
    rw [bne_iff_ne]
    rintro rfl
    exact absurd hc (by decide)
  have hbody : (p.skip endTagStart.length).rest = s := by
    rw [Place.rest_skip, h]
    rfl
  have hq : (readEndTag p).2 = p.skip ((s.takeWhile (· != '>')).length + 2 + 1) := by
    unfold readEndTag
    dsimp only
    rw [Place.skipWhile, hbody, Place.skip_skip, Place.skip_skip]
    congr 1
    simp only [endTagStart, List.length_cons, List.length_nil]
    omega
  refine reads_one hp (by simp [h]) hq rfl (.inr ?_)
  rw [hbody, String.toList_ofList, h]
  simp only [List.take_succ_cons, List.cons_prefix_cons, true_and]
  exact prefix_take (List.takeWhile_prefix _) (Nat.le_succ_of_le hname.length_le)

theorem readValue_within (hp : p.In source) : p.Ahead (readValue p).next ∧
    (readValue p).span.slice? source = some (readValue p).raw ∧
    Span.InOrder p.offset [(readValue p).span] (readValue p).next.offset := by
  unfold readValue
  split
  · next c s hs =>
    split
    · -- between quotes, the last of which may be missing
      have hraw : s.takeWhile (· != c) <+: (p.skip 1).rest := by
        rw [Place.rest_skip, hs]
        exact List.takeWhile_prefix _
      have hinner := Place.ahead_skip (s.takeWhile (· != c)).length (p.skip 1)
      have hquote := Place.ahead_skip 1 ((p.skip 1).skip (s.takeWhile (· != c)).length)
      refine ⟨((Place.ahead_skip 1 p).trans hinner).trans hquote,
        (hp.skip 1).slice?_of_isPrefix hraw, ?_, hinner.offset_le, hquote.offset_le⟩
      exact (Place.ahead_skip 1 p).offset_le
    · have hraw : leading endsValue (c :: s) <+: p.rest := by
        rw [hs]
        exact isPrefix_leading endsValue _
      exact ⟨Place.ahead_skip _ p, hp.slice?_of_isPrefix hraw, Nat.le_refl _,
        (Place.ahead_skip _ p).offset_le, Nat.le_refl _⟩
  · exact ⟨.refl p, hp.slice?_skip 0, Nat.le_refl _, Nat.le_refl _, Nat.le_refl _⟩

theorem readAttribute_within (hp : p.In source) : p.Ahead (readAttribute p).2 ∧
    (readAttribute p).1.Faithful source ∧
    Span.InOrder p.offset [(readAttribute p).1.nameSpan, (readAttribute p).1.valueSpan]
      (readAttribute p).2.offset := by
  have hq := Place.ahead_skip (p.rest.takeWhile isKeyChar).length p
  have hname : (p.upTo (p.skip (p.rest.takeWhile isKeyChar).length)).slice? source =
      some (String.ofList (p.rest.takeWhile isKeyChar)).toList := by
    rw [String.toList_ofList]
    exact hp.slice?_of_isPrefix (List.takeWhile_prefix isKeyChar)
  unfold readAttribute
  dsimp only
  split
  · have hr := (Place.ahead_skipWhile isGap (p.skip (p.rest.takeWhile isKeyChar).length)).trans
      ((Place.ahead_skip 1 _).trans (Place.ahead_skipWhile isGap _))
    obtain ⟨hnext, hvalue, horder⟩ := readValue_within (hp.ahead (hq.trans hr))
    refine ⟨(hq.trans hr).trans hnext, ⟨hname, _, hvalue, String.toList_ofList⟩, ?_⟩
    exact ⟨Nat.le_refl _, hq.offset_le, horder.start_le hr.offset_le⟩
  · exact ⟨hq, ⟨hname, rfl⟩, Nat.le_refl _, hq.offset_le, Nat.le_refl _, Nat.le_refl _,
      Nat.le_refl _⟩

theorem readTagBody_within (hp : p.In source) : p.Ahead (readTagBody p).next ∧
    (∀ a ∈ (readTagBody p).attributes, a.Faithful source) ∧
    Span.InOrder p.offset (TokenAttribute.spans (readTagBody p).attributes)
      (readTagBody p).next.offset := by
  have hnone :
      ∀ {p q : Place}, p.Ahead q → p.Ahead q ∧ (∀ a ∈ [], TokenAttribute.Faithful source a) ∧
      Span.InOrder p.offset (TokenAttribute.spans []) q.offset :=
    fun h => ⟨h, by simp, h.offset_le⟩
  fun_induction readTagBody p with
  | case1 p q => exact hnone (Place.ahead_skipWhile isGap p)
  | case2 p q => exact hnone ((Place.ahead_skipWhile isGap p).trans (Place.ahead_skip 1 q))
  | case3 p q => exact hnone ((Place.ahead_skipWhile isGap p).trans (Place.ahead_skip 2 q))
  | case4 p q c s h _ _ hc a body ih =>
    have hq := Place.ahead_skipWhile isGap p
    obtain ⟨ha, hfaithful, horder⟩ := readAttribute_within (hp.ahead hq)
    obtain ⟨hbody, hall, horders⟩ := ih (hp.ahead (hq.trans ha))
    refine ⟨(hq.trans ha).trans hbody, ?_, ?_⟩
    · rintro b (_ | ⟨_, hb⟩)
      · exact hfaithful
      · exact hall b hb
    · exact (horder.start_le hq.offset_le).append horders
  | case5 p q c s h _ _ hc ih =>
    have hq := (Place.ahead_skipWhile isGap p).trans (Place.ahead_skip 1 q)
    obtain ⟨hbody, hall, horders⟩ := ih (hp.ahead hq)
    exact ⟨hq.trans hbody, hall, horders.start_le hq.offset_le⟩

theorem reads_tag (hp : p.In source) (h : p.rest = '<' :: s) {body : TagBody}
    (hbody : body = readTagBody ((p.skip 1).skip (s.takeWhile isTagChar).length)) :
    Reads source p [.startTag (String.ofList (s.takeWhile isTagChar)) body.attributes
      body.selfClosing (p.upTo body.next)] body.next := by
  have hinner := (Place.ahead_skip 1 p).trans (Place.ahead_skip (s.takeWhile isTagChar).length _)
  obtain ⟨⟨n, hn⟩, hall, horder⟩ := readTagBody_within (hp.ahead hinner)
  rw [← hbody] at hn hall horder
  have hnext : body.next = p.skip ((s.takeWhile isTagChar).length + n + 1) := by
    rw [hn, Place.skip_skip, Place.skip_skip]
    congr 1
    omega
  refine reads_one hp (by simp [h]) hnext rfl ⟨?_, hall, horder.start_le hinner.offset_le⟩
  rw [String.toList_ofList, h, List.take_succ_cons, List.cons_prefix_cons]
  exact ⟨rfl, prefix_take (List.takeWhile_prefix _) (Nat.le_add_right _ _)⟩

theorem readRawText_within (name : List Char) (hp : p.In source) : ∃ content close,
    (readRawText name p).1 = content ++ close ∧ Reads source p content (readRawText name p).2 ∧
      (content = [] ∨ ∃ s span, content = [.rawText s span]) ∧
      (close = [] ∨ (readRawText name p).2.rest = [] ∧
        close = [.endTag (String.ofList name) ⟨width source, width source⟩]) := by
  have hraw := isPrefix_leading (closes name) p.rest
  have hq := hp.skip (leading (closes name) p.rest).length
  unfold readRawText
  generalize leading (closes name) p.rest = raw at hraw hq
  refine ⟨_, _, rfl, ?_, ?_, ?_⟩
  · cases raw with
    | nil => exact .refl source p
    | cons c s =>
      have hrest : p.rest ≠ [] := fun h => by simp [h] at hraw
      refine reads_one hp hrest rfl rfl ?_
      rw [← List.length_cons, ← List.prefix_iff_eq_take.mp hraw]
      exact String.toList_ofList
  · split
    · exact .inl rfl
    · exact .inr ⟨_, _, rfl⟩
  · split
    · next h =>
      refine .inr ⟨h, ?_⟩
      rw [Place.upTo, hq.offset_eq h]
    · exact .inl rfl

theorem readsTo_startTag (hp : p.In source) (h : p.rest = '<' :: s) :
    ReadsTo dialect source p (readStartTag dialect p).1 (readStartTag dialect p).2 := by
  have hname : (p.skip 1).rest.takeWhile isTagChar = s.takeWhile isTagChar := by
    rw [Place.rest_skip, h]
    rfl
  have htag := reads_tag hp h rfl
  unfold readStartTag
  simp only [hname]
  generalize readTagBody ((p.skip 1).skip (s.takeWhile isTagChar).length) = body at htag ⊢
  obtain ⟨as, alone, next⟩ := body
  split
  · next hraw =>
    obtain ⟨hd, rfl, hraw⟩ := hraw
    obtain ⟨content, close, hsplit, hcontent, hform, hclose⟩ :=
      readRawText_within (s.takeWhile isTagChar) (hp.ahead htag.ahead)
    rw [hsplit]
    rcases hclose with rfl | ⟨hend, rfl⟩
    · rw [List.append_nil]
      exact .inl (htag.trans hcontent)
    · exact .inr ⟨_ :: content, _, rfl, hend,
        ⟨hd, [], _, as, _, content, hraw, hform, rfl, rfl⟩, htag.trans hcontent⟩
  · exact .inl htag

theorem readsTo_read (dialect : Dialect) (hp : p.In source) (hrest : p.rest ≠ []) :
    ReadsTo dialect source p (read dialect p).1 (read dialect p).2 := by
  have h := reading dialect p
  generalize read dialect p = step at h ⊢
  cases h with
  | text => exact .inl (reads_text hp hrest)
  | comment => exact .inl (reads_comment hp hrest)
  | doctype => exact .inl (reads_doctype hp hrest)
  | bogusComment n => exact .inl (reads_bogusComment hp hrest)
  | endTag hc h => exact .inl (reads_endTag hp h)
  | startTag hc h => exact readsTo_startTag hp h

theorem readsTo_scan (dialect : Dialect) (hp : p.In source) : ∃ q : Place, q.In source ∧
    q.rest = [] ∧ ReadsTo dialect source p (scan dialect p) q := by
  fun_induction scan dialect p with
  | case1 p h => exact ⟨p, hp, h, .inl (.refl source p)⟩
  | case2 p h step ih =>
    rcases readsTo_read dialect hp h with hread | ⟨front, t, hts, hend, ht, hfront⟩
    · obtain ⟨q, hq, hend, hscan⟩ := ih (hp.ahead hread.ahead)
      refine ⟨q, hq, hend, ?_⟩
      rcases hscan with hscan | ⟨front, t, hts, _, ht, hfront⟩
      · exact .inl (hread.trans hscan)
      · refine .inr ⟨step.1 ++ front, t, ?_, hend, ht.prepend step.1, hread.trans hfront⟩
        rw [hts, List.append_assoc]
    · -- nothing is left to read after an end tag that is supplied
      have hnone : scan dialect step.2 = [] := by rw [scan, dif_pos hend]
      refine ⟨step.2, hp.ahead hfront.ahead, hend, ?_⟩
      rw [hnone, List.append_nil]
      exact .inr ⟨front, t, hts, hend, ht, hfront⟩

section ToEnd

variable (hq : q.In source) (hend : q.rest = [])
include hq hend

theorem Supplied.faithful {t : Token} (ht : Supplied dialect (width source) ts t) :
    t.span = ⟨width source, width source⟩ ∧ t.Faithful source := by
  obtain ⟨_, _, name, _, _, _, _, _, rfl, _⟩ := ht
  have hslice := hq.slice?_skip 0
  rw [Place.upTo, Place.skip_zero, hq.offset_eq hend] at hslice
  exact ⟨rfl, [], hslice, .inl rfl⟩

theorem ReadsTo.cover (h : ReadsTo dialect source p ts q) : Cover p.offset ts (width source) := by
  rw [← hq.offset_eq hend]
  rcases h with h | ⟨front, t, rfl, _, ht, hfront⟩
  · exact h.cover
  · have hspan := (ht.faithful hq hend).1
    rw [← hq.offset_eq hend] at hspan
    exact hfront.cover.append ⟨by rw [hspan], by rw [hspan]; rfl⟩

theorem ReadsTo.faithful (h : ReadsTo dialect source p ts q) : ∀ t ∈ ts, t.Faithful source := by
  rcases h with h | ⟨front, t, rfl, _, ht, hfront⟩
  · exact h.faithful
  · intro u hu
    rcases List.mem_append.mp hu with hu | hu
    · exact hfront.faithful u hu
    · rw [List.mem_singleton.mp hu]
      exact (ht.faithful hq hend).2

end ToEnd

theorem ReadsTo.filled (h : ReadsTo dialect source p ts q) :
    ∀ t ∈ ts, t.span.start < t.span.stop ∨ Supplied dialect (width source) ts t := by
  rcases h with h | ⟨front, t, rfl, _, ht, hfront⟩
  · exact fun t ht => .inl (h.filled t ht)
  · intro u hu
    rcases List.mem_append.mp hu with hu | hu
    · exact .inl (hfront.filled u hu)
    · rw [List.mem_singleton.mp hu]
      exact .inr ht

theorem not_isText_readRawText {name : List Char} :
    ∀ t ∈ (readRawText name p).1, t.isText = false := by
  intro t ht
  unfold readRawText at ht
  rcases List.mem_append.mp ht with h | h
  · split at h
    · simp at h
    · rw [List.mem_singleton.mp h]
      rfl
  · split at h
    · rw [List.mem_singleton.mp h]
      rfl
    · simp at h

theorem not_isText_readStartTag : ∀ t ∈ (readStartTag dialect p).1, t.isText = false := by
  intro t ht
  unfold readStartTag at ht
  dsimp only at ht
  split at ht
  · rcases List.mem_cons.mp ht with rfl | ht
    · rfl
    · exact not_isText_readRawText t ht
  · rw [List.mem_singleton.mp ht]
    rfl

theorem read_eq_of_isText {t : Token} (ht : t ∈ (read dialect p).1) (h : t.isText = true) :
    opensMarkup p.rest = false ∧ read dialect p = ([(readText p).1], (readText p).2) := by
  have hread := reading dialect p
  generalize read dialect p = step at hread ht ⊢
  cases hread with
  | text hopens => exact ⟨hopens, rfl⟩
  | startTag => simp [not_isText_readStartTag t ht] at h
  | _ =>
    rw [List.mem_singleton.mp ht] at h
    cases h

theorem pastLeading_cases (stop : List Char → Bool) (s : List Char) :
    pastLeading stop s = [] ∨ stop (pastLeading stop s) = true := by
  induction s with
  | nil => exact .inl rfl
  | cons c s ih =>
    unfold pastLeading
    split
    · next h => exact .inr h
    · exact ih

theorem boundary_readText (hrest : p.rest ≠ []) : Boundary (readText p).2.rest := by
  obtain ⟨c, s, hs⟩ := List.exists_cons_of_ne_nil hrest
  have hafter : (readText p).2.rest = pastLeading opensMarkup s := by
    unfold readText
    rw [Place.rest_skip, hs]
    exact drop_length_leading opensMarkup s
  rw [hafter]
  exact pastLeading_cases opensMarkup s

theorem read_ne_nil (dialect : Dialect) (p : Place) : (read dialect p).1 ≠ [] := by
  have hread := reading dialect p
  generalize read dialect p = step at hread
  cases hread with
  | startTag =>
    unfold readStartTag
    dsimp only
    split <;> exact List.cons_ne_nil _ _
  | _ => exact List.cons_ne_nil _ _

theorem not_boundary_of_head? {t : Token} (ht : t ∈ (scan dialect p).head?)
    (h : t.isText = true) : ¬ Boundary p.rest := by
  rw [scan] at ht
  split at ht
  · cases ht
  · next hrest =>
    rw [List.head?_append_of_ne_nil _ (read_ne_nil dialect p)] at ht
    have hopens := (read_eq_of_isText (List.mem_of_mem_head? ht) h).1
    rintro (hnil | hmarkup)
    · exact hrest hnil
    · rw [hopens] at hmarkup
      cases hmarkup

theorem isChain_scan (dialect : Dialect) (p : Place) :
    (scan dialect p).IsChain fun t u => ¬ (t.isText = true ∧ u.isText = true) := by
  fun_induction scan dialect p with
  | case1 => exact .nil
  | case2 p hrest step ih =>
    -- a text is read alone and up to markup or the end, so none is read after it
    by_cases htext : ∃ t ∈ step.1, t.isText = true
    · obtain ⟨t, ht, h⟩ := htext
      have hread : step = _ := (read_eq_of_isText ht h).2
      rw [hread] at ih ⊢
      refine .cons ih fun u hu hboth => ?_
      exact not_boundary_of_head? hu hboth.2 (boundary_readText hrest)
    · have hnot : ∀ t ∈ step.1, ¬ t.isText = true := fun t ht h => htext ⟨t, ht, h⟩
      refine .append (List.Pairwise.isChain ?_) ih fun t ht u _ hboth => ?_
      · exact List.pairwise_of_forall_mem_list fun t ht u _ hboth => hnot t ht hboth.1
      · exact hnot t (List.mem_of_mem_getLast? ht) hboth.1

end Token

theorem tokens_tile_markup (dialect : Dialect) (markup : String) :
    Token.Cover 0 (Token.tokens dialect markup) markup.utf8ByteSize ∧
      (∀ t ∈ Token.tokens dialect markup, t.span.start < t.span.stop ∨
        Token.Supplied dialect markup.utf8ByteSize (Token.tokens dialect markup) t) ∧
      (∀ t ∈ Token.tokens dialect markup, t.Faithful markup.toList) ∧
      (Token.tokens dialect markup).IsChain fun t u => ¬ (t.isText = true ∧ u.isText = true) := by
  obtain ⟨q, hq, hend, hread⟩ := Token.readsTo_scan dialect (Place.in_start markup.toList)
  rw [← width_toList]
  exact ⟨hread.cover hq hend, hread.filled, hread.faithful hq hend, Token.isChain_scan dialect _⟩

end MarkupForest
