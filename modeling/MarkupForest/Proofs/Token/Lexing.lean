import MarkupForest.Proofs.Text.CaseFolding
import MarkupForest.Proofs.Reference.Unescape
import MarkupForest.Token.Scan
import Mathlib.Data.List.Basic

namespace MarkupForest

open Text

def nowhere : Span := ⟨0, 0⟩

def TokenAttribute.unplaced (a : TokenAttribute) : TokenAttribute :=
  ⟨a.name, a.value, nowhere, nowhere⟩

def Token.unplaced : Token → Token
  | .startTag name as selfClosing _ =>
    .startTag name (as.map TokenAttribute.unplaced) selfClosing nowhere
  | .endTag name _ => .endTag name nowhere
  | .text s _ => .text s nowhere
  | .rawText s _ => .rawText s nowhere
  | .comment s _ => .comment s nowhere
  | .doctype d _ => .doctype d nowhere

namespace Token

variable {dialect : Dialect} {r s t u : List Char} {ts us : List Token} {p : Place}

def Scans (dialect : Dialect) (s : List Char) (ts : List Token) (t : List Char) : Prop :=
  ∀ p : Place, p.rest = s → ∃ q : Place, q.rest = t ∧
    (scan dialect p).map unplaced = ts ++ (scan dialect q).map unplaced

theorem Scans.refl (s : List Char) : Scans dialect s [] s := fun p hp => ⟨p, hp, rfl⟩

theorem Scans.trans (h : Scans dialect s ts t) (hu : Scans dialect t us u) :
    Scans dialect s (ts ++ us) u := by
  intro p hp
  obtain ⟨q, hq, he⟩ := h p hp
  obtain ⟨r, hr, hf⟩ := hu q hq
  exact ⟨r, hr, by rw [he, hf, List.append_assoc]⟩

theorem scans_of_read (hs : s ≠ []) (h : ∀ p : Place, p.rest = s →
    (read dialect p).1.map unplaced = ts ∧ (read dialect p).2.rest = t) : Scans dialect s ts t := by
  intro p hp
  obtain ⟨hts, ht⟩ := h p hp
  refine ⟨(read dialect p).2, ht, ?_⟩
  have hne : p.rest ≠ [] := hp ▸ hs
  rw [scan, dif_neg hne, List.map_append, hts]

theorem Scans.map_tokens {markup : String} (h : Scans dialect markup.toList ts []) :
    (tokens dialect markup).map unplaced = ts := by
  obtain ⟨q, hq, he⟩ := h (.start markup.toList) rfl
  have hend : scan dialect q = [] := by rw [scan, dif_pos hq]
  rw [tokens, he, hend, List.map_nil, List.append_nil]

theorem leading_append {stop : List Char → Bool}
    (hs : ∀ v, v <:+ s → v ≠ [] → stop (v ++ t) = false) (ht : t = [] ∨ stop t = true) :
    leading stop (s ++ t) = s := by
  induction s with
  | nil =>
    rcases ht with rfl | ht
    · rfl
    · cases t with
      | nil => rfl
      | cons c t => rw [List.nil_append, leading, if_pos ht]
  | cons c s ih =>
    have hc : stop (c :: (s ++ t)) = false := hs (c :: s) List.suffix_rfl (List.cons_ne_nil c s)
    rw [List.cons_append, leading, if_neg (by simp [hc]),
      ih fun v hv => hs v (hv.trans (List.suffix_cons c s))]

def Boundary (t : List Char) : Prop := t = [] ∨ opensMarkup t = true

theorem opensMarkup_of_ne {c : Char} (hc : c ≠ '<') : opensMarkup (c :: s) = false := by
  unfold opensMarkup
  split <;> simp_all

theorem rest_skip_append (hp : p.rest = s ++ t) : (p.skip s.length).rest = t := by
  rw [Place.rest_skip, hp, List.drop_left]

theorem read_text (h : opensMarkup p.rest = false) :
    read dialect p = ([(readText p).1], (readText p).2) := by
  unfold read
  simp [h]

theorem read_comment (h : p.rest = commentStart ++ s) :
    read dialect p = ([(readComment p).1], (readComment p).2) := by
  have hopens : opensMarkup p.rest = true := by rw [h]; rfl
  have hstart : commentStart.isPrefixOf p.rest = true := by rw [h]; rfl
  unfold read
  simp [hopens, hstart]

def capitalDoctypeStart : List Char := ['<', '!', 'D', 'O', 'C', 'T', 'Y', 'P', 'E']

theorem read_doctype (hr : r = doctypeStart ∨ r = capitalDoctypeStart) (h : p.rest = r ++ s) :
    read dialect p = ([(readDoctype p).1], (readDoctype p).2) := by
  have hopens : opensMarkup p.rest = true := by rcases hr with rfl | rfl <;> (rw [h]; rfl)
  have hcomment : commentStart.isPrefixOf p.rest = false := by
    rcases hr with rfl | rfl <;> (rw [h]; rfl)
  have hstart : opensWith doctypeStart p.rest = true := by
    rcases hr with rfl | rfl <;> (rw [h]; rfl)
  unfold read
  simp [hopens, hcomment, hstart]

theorem isTagChar_lt {c : Char} (hc : isTagChar c = true) : c.toNat < 0x80 := by
  by_contra hge
  have hz : ∀ d : Char, d.toNat < 0x80 → c ≠ d := by
    rintro d hd rfl
    exact hge hd
  have hnot : ∀ d : Char, d.toNat < 0x80 → ¬ c.val ≤ d.val := fun d hd h =>
    hge (Nat.lt_of_le_of_lt h hd)
  have hupper : c.isUpper = false := decide_eq_false fun h => hnot 'Z' (by decide) h.2
  have hlower : c.isLower = false :=
    Bool.and_eq_false_iff.mpr (.inr (decide_eq_false (hnot 'z' (by decide))))
  have hdigit : c.isDigit = false :=
    Bool.and_eq_false_iff.mpr (.inr (decide_eq_false (hnot '9' (by decide))))
  have halnum : c.isAlphanum = false :=
    Bool.or_eq_false_iff.mpr ⟨Bool.or_eq_false_iff.mpr ⟨hupper, hlower⟩, hdigit⟩
  simp [isTagChar, halnum, hz '-' (by decide), hz '_' (by decide), hz ':' (by decide),
    hz '.' (by decide)] at hc

theorem isTagChar_of_isAlpha {c : Char} (hc : c.isAlpha = true) : isTagChar c = true := by
  simp [isTagChar, Char.isAlphanum, hc]

theorem isAlpha_ne {c : Char} (hc : c.isAlpha = true) :
    c ≠ '!' ∧ c ≠ '?' ∧ c ≠ '/' ∧ c.toLower ≠ '!' := by
  refine ascii_induction (P := fun c => c.isAlpha = true → c ≠ '!' ∧ c ≠ '?' ∧ c ≠ '/' ∧
    c.toLower ≠ '!') (by decide) (isTagChar_lt (isTagChar_of_isAlpha hc)) hc

theorem read_endTag {c : Char} (hc : c.isAlpha = true) (h : p.rest = '<' :: '/' :: c :: s) :
    read dialect p = ([(readEndTag p).1], (readEndTag p).2) := by
  have hopens : opensMarkup ('<' :: '/' :: c :: s) = true := hc
  unfold read
  rw [h]
  simp [hopens, commentStart, doctypeStart, declarationStart, instructionStart, endTagStart,
    opensWith]

theorem opensMarkup_of_isAlpha {c : Char} (hc : c.isAlpha = true) :
    opensMarkup ('<' :: c :: s) = true := by
  obtain ⟨hbang, hask, hslash, _⟩ := isAlpha_ne hc
  unfold opensMarkup
  split <;> simp_all

theorem read_startTag {c : Char} (hc : c.isAlpha = true) (h : p.rest = '<' :: c :: s) :
    read dialect p = readStartTag dialect p := by
  obtain ⟨hbang, hask, hslash, hlow⟩ := isAlpha_ne hc
  have hopens : opensMarkup ('<' :: c :: s) = true := opensMarkup_of_isAlpha hc
  unfold read
  rw [h]
  simp [hopens, commentStart, doctypeStart, declarationStart, instructionStart, endTagStart,
    opensWith, hbang.symm, hask.symm, hslash.symm, hlow.symm]

theorem scans_text (hr : r ≠ []) (hlt : '<' ∉ r) (ht : Boundary t) :
    Scans dialect (r ++ t) [.text (String.ofList (Reference.decode r)) nowhere] t := by
  refine scans_of_read (List.append_ne_nil_of_left_ne_nil hr t) fun p hp => ?_
  cases r with
  | nil => exact absurd rfl hr
  | cons c r =>
    have hopens : opensMarkup p.rest = false := by
      rw [hp, List.cons_append]
      exact opensMarkup_of_ne (List.ne_of_not_mem_cons hlt).symm
    have hlead : leading opensMarkup (r ++ t) = r := by
      refine leading_append (fun v hv hne => ?_) ht
      cases v with
      | nil => exact absurd rfl hne
      | cons d v =>
        refine opensMarkup_of_ne ?_
        rintro rfl
        exact hlt (List.mem_cons_of_mem c (hv.subset List.mem_cons_self))
    have hraw : p.rest.take 1 ++ leading opensMarkup (p.rest.drop 1) = c :: r := by
      rw [hp]
      simp [hlead]
    rw [read_text hopens, readText, hraw]
    exact ⟨rfl, rest_skip_append hp⟩

theorem scans_escaped {s : String} (hs : s ≠ "") (ht : Boundary t) :
    Scans dialect (Reference.encode .content dialect s.toList ++ t) [.text s nowhere] t := by
  have hne : s.toList ≠ [] := by simpa using hs
  have hscan : Scans dialect (Reference.encode .content dialect s.toList ++ t) _ t :=
    scans_text (Reference.encode_ne_nil hne) Reference.lt_not_mem_encode ht
  rwa [Reference.decode_encode, String.ofList_toList] at hscan

theorem scans_comment (hs : ¬ commentEnd <:+: s) :
    Scans dialect (commentStart ++ (s ++ (commentEnd ++ t)))
      [.comment (String.ofList s) nowhere] t := by
  refine scans_of_read (by simp [commentStart]) fun p hp => ?_
  have hbody : (p.skip commentStart.length).rest = s ++ (commentEnd ++ t) := rest_skip_append hp
  have hdata : leading commentEnd.isPrefixOf (s ++ (commentEnd ++ t)) = s := by
    refine leading_append (fun v hv hne => ?_) (.inr (by simp [commentEnd]))
    rw [Bool.eq_false_iff, ne_eq, List.isPrefixOf_iff_prefix]
    intro hpre
    -- an end mark that begins in the data and ends after it would overlap the end mark there
    rcases v with _ | ⟨a, _ | ⟨b, _ | ⟨c, v⟩⟩⟩
    · exact hne rfl
    · simp [commentEnd] at hpre
    · simp [commentEnd] at hpre
    · have hin : commentEnd <+: a :: b :: c :: v := by
        simpa [commentEnd] using hpre
      exact hs (hin.isInfix.trans hv.isInfix)
  have hlen : s.length + commentEnd.length = (s ++ commentEnd).length := List.length_append.symm
  rw [read_comment hp, readComment, hbody, hdata, hlen]
  exact ⟨rfl, rest_skip_append (by rw [hbody, List.append_assoc])⟩

theorem scans_endTag (halpha : startsIn Char.isAlpha s = true)
    (hs : ∀ c ∈ s, isTagChar c = true) :
    Scans dialect ('<' :: '/' :: (s ++ '>' :: t)) [.endTag (String.ofList s) nowhere] t := by
  refine scans_of_read (by simp) fun p hp => ?_
  cases s with
  | nil => cases halpha
  | cons c s =>
    have hbody : (p.skip endTagStart.length).rest = (c :: s) ++ '>' :: t :=
      rest_skip_append (s := endTagStart) hp
    have hname : ((c :: s) ++ '>' :: t).takeWhile isTagChar = c :: s :=
      takeWhile_append_cons hs rfl
    have hgreater := bne_of_not_mem fun hx : '>' ∈ c :: s => absurd (hs _ hx) (by decide)
    have hend : ((p.skip endTagStart.length).skipWhile (· != '>')).rest = '>' :: t := by
      rw [Place.rest_skipWhile, hbody]
      exact dropWhile_append_cons hgreater rfl
    rw [read_endTag halpha hp, readEndTag, hbody, hname]
    refine ⟨rfl, ?_⟩
    rw [Place.rest_skip, hend]
    rfl

end Token

end MarkupForest
