import MarkupForest.Reference
import MarkupForest.Tag
import MarkupForest.Text.Place
import MarkupForest.Token.Doctype

namespace MarkupForest.Token

open Text

def isTagChar (c : Char) : Bool :=
  c.isAlphanum || c == '-' || c == '_' || c == ':' || c == '.'

def isKeyChar (c : Char) : Bool :=
  !(isGap c || c == '/' || c == '>' || c == '=' || c == '\x22' || c == '\x27')

def opensMarkup : List Char → Bool
  | '<' :: '!' :: _ => true
  | '<' :: '?' :: _ => true
  | '<' :: '/' :: c :: _ => c.isAlpha
  | '<' :: c :: _ => c.isAlpha
  | _ => false

def commentStart : List Char := ['<', '!', '-', '-']

def commentEnd : List Char := ['-', '-', '>']

def doctypeStart : List Char := ['<', '!', 'd', 'o', 'c', 't', 'y', 'p', 'e']

def declarationStart : List Char := ['<', '!']

def instructionStart : List Char := ['<', '?']

def endTagStart : List Char := ['<', '/']

def readText (p : Place) : Token × Place :=
  let raw := p.rest.take 1 ++ leading opensMarkup (p.rest.drop 1)
  let q := p.skip raw.length
  (.text (String.ofList (Reference.decode raw)) (p.upTo q), q)

def readComment (p : Place) : Token × Place :=
  let body := p.skip commentStart.length
  let data := leading commentEnd.isPrefixOf body.rest
  let q := body.skip (data.length + commentEnd.length)
  (.comment (String.ofList data) (p.upTo q), q)

def readBogusComment (opening : Nat) (p : Place) : Token × Place :=
  let body := p.skip opening
  let data := body.rest.takeWhile (· != '>')
  let q := body.skip (data.length + 1)
  (.comment (String.ofList data) (p.upTo q), q)

def readDoctype (p : Place) : Token × Place :=
  let body := p.skip doctypeStart.length
  let content := body.rest.takeWhile (· != '>')
  let q := body.skip (content.length + 1)
  (.doctype (.ofContent content) (p.upTo q), q)

def readEndTag (p : Place) : Token × Place :=
  let body := p.skip endTagStart.length
  let q := (body.skipWhile (· != '>')).skip 1
  (.endTag (String.ofList (body.rest.takeWhile isTagChar)) (p.upTo q), q)

def endsValue : List Char → Bool
  | '/' :: '>' :: _ => true
  | c :: _ => isGap c || c == '>'
  | [] => true

structure RawValue where
  raw : List Char
  span : Span
  next : Place

def readValue (p : Place) : RawValue :=
  match p.rest with
  | c :: s =>
    if Doctype.isQuote c then
      let raw := s.takeWhile (· != c)
      let inner := p.skip 1
      let q := inner.skip raw.length
      ⟨raw, inner.upTo q, q.skip 1⟩
    else
      let raw := leading endsValue (c :: s)
      let q := p.skip raw.length
      ⟨raw, p.upTo q, q⟩
  | [] => ⟨[], p.upTo p, p⟩

theorem length_next_readValue_le (p : Place) :
    (readValue p).next.rest.length ≤ p.rest.length := by
  unfold readValue
  split
  · split
    · simp only [Place.length_rest_skip]
      omega
    · exact Place.length_rest_skip_le _ _
  · exact Nat.le_refl _

def readAttribute (p : Place) : TokenAttribute × Place :=
  let name := p.rest.takeWhile isKeyChar
  let q := p.skip name.length
  let r := q.skipWhile isGap
  if r.rest.head? = some '=' then
    let v := readValue ((r.skip 1).skipWhile isGap)
    (⟨String.ofList name, some (String.ofList (Reference.decode v.raw)), p.upTo q, v.span⟩, v.next)
  else (⟨String.ofList name, none, p.upTo q, q.upTo q⟩, q)

theorem length_readAttribute_lt {p : Place} {c : Char} {s : List Char} (h : p.rest = c :: s)
    (hc : isKeyChar c = true) : (readAttribute p).2.rest.length < p.rest.length := by
  have hq : (p.skip (p.rest.takeWhile isKeyChar).length).rest.length < p.rest.length := by
    rw [Place.length_rest_skip, h]
    simp only [List.takeWhile_cons, hc, if_true, List.length_cons]
    omega
  unfold readAttribute
  dsimp only
  split
  · refine Nat.lt_of_le_of_lt ?_ hq
    refine Nat.le_trans (length_next_readValue_le _) ?_
    refine Nat.le_trans (Place.length_rest_skipWhile_le _ _) ?_
    exact Nat.le_trans (Place.length_rest_skip_le _ _) (Place.length_rest_skipWhile_le _ _)
  · exact hq

structure TagBody where
  attributes : List TokenAttribute
  selfClosing : Bool
  next : Place

def readTagBody (p : Place) : TagBody :=
  let q := p.skipWhile isGap
  match _h : q.rest with
  | [] => ⟨[], false, q⟩
  | c :: s =>
    if c = '>' then ⟨[], false, q.skip 1⟩
    else if c = '/' ∧ s.head? = some '>' then ⟨[], true, q.skip 2⟩
    else if _hc : isKeyChar c then
      let a := readAttribute q
      let body := readTagBody a.2
      { body with attributes := a.1 :: body.attributes }
    else readTagBody (q.skip 1)
termination_by p.rest.length
decreasing_by
  · exact Nat.lt_of_lt_of_le (length_readAttribute_lt _h _hc) (Place.length_rest_skipWhile_le _ p)
  · refine Nat.lt_of_lt_of_le ?_ (Place.length_rest_skipWhile_le isGap p)
    rw [Place.length_rest_skip, _h]
    exact Nat.lt_succ_self _

theorem length_next_readTagBody_le (p : Place) :
    (readTagBody p).next.rest.length ≤ p.rest.length := by
  fun_induction readTagBody p with
  | case1 p q => exact Place.length_rest_skipWhile_le _ _
  | case2 p q =>
      exact Nat.le_trans (Place.length_rest_skip_le _ _) (Place.length_rest_skipWhile_le _ _)
  | case3 p q =>
      exact Nat.le_trans (Place.length_rest_skip_le _ _) (Place.length_rest_skipWhile_le _ _)
  | case4 p q c s h _ _ hc a body ih =>
      exact Nat.le_trans ih (Nat.le_trans (Nat.le_of_lt (length_readAttribute_lt h hc))
        (Place.length_rest_skipWhile_le _ _))
  | case5 p q c s h _ _ hc ih =>
      exact Nat.le_trans ih
        (Nat.le_trans (Place.length_rest_skip_le _ _) (Place.length_rest_skipWhile_le _ _))

def closes (name : List Char) : List Char → Bool
  | '<' :: '/' :: s =>
    opensWith name s && match s.drop name.length with
      | [] => true
      | c :: _ => c == '>' || c == '/' || isGap c
  | _ => false

/-- An end tag is supplied at the end of the source if it is missing. -/
def readRawText (name : List Char) (p : Place) : List Token × Place :=
  let raw := leading (closes name) p.rest
  let q := p.skip raw.length
  let content := if raw = [] then [] else [Token.rawText (String.ofList raw) (p.upTo q)]
  let close := if q.rest = [] then [Token.endTag (String.ofList name) (q.upTo q)] else []
  (content ++ close, q)

def readStartTag (dialect : Dialect) (p : Place) : List Token × Place :=
  let inner := p.skip 1
  let name := inner.rest.takeWhile isTagChar
  let body := readTagBody (inner.skip name.length)
  let tag := Token.startTag (String.ofList name) body.attributes body.selfClosing (p.upTo body.next)
  if dialect = .html ∧ body.selfClosing = false ∧ Tag.isRawText (String.ofList name) = true then
    let raw := readRawText name body.next
    (tag :: raw.1, raw.2)
  else ([tag], body.next)

def read (dialect : Dialect) (p : Place) : List Token × Place :=
  let one (t : Token × Place) : List Token × Place := ([t.1], t.2)
  if !opensMarkup p.rest then one (readText p)
  else if commentStart.isPrefixOf p.rest then one (readComment p)
  else if opensWith doctypeStart p.rest then one (readDoctype p)
  else if declarationStart.isPrefixOf p.rest then one (readBogusComment 2 p)
  else if instructionStart.isPrefixOf p.rest then one (readBogusComment 1 p)
  else if endTagStart.isPrefixOf p.rest then one (readEndTag p)
  else readStartTag dialect p

theorem length_skip_lt {p : Place} (h : p.rest ≠ []) (n : Nat) :
    (p.skip (n + 1)).rest.length < p.rest.length := by
  have : 0 < p.rest.length := List.length_pos_iff.2 h
  rw [Place.length_rest_skip]
  omega

theorem length_readStartTag_lt (dialect : Dialect) {p : Place} (h : p.rest ≠ []) :
    (readStartTag dialect p).2.rest.length < p.rest.length := by
  have hb : ∀ q : Place, q.rest.length < p.rest.length →
      (readTagBody q).next.rest.length < p.rest.length :=
    fun q hq => Nat.lt_of_le_of_lt (length_next_readTagBody_le q) hq
  have h1 := length_skip_lt h 0
  unfold readStartTag
  dsimp only
  split
  · exact Nat.lt_of_le_of_lt (Place.length_rest_skip_le _ _)
      (hb _ (Nat.lt_of_le_of_lt (Place.length_rest_skip_le _ _) h1))
  · exact hb _ (Nat.lt_of_le_of_lt (Place.length_rest_skip_le _ _) h1)

theorem length_read_lt (dialect : Dialect) {p : Place} (h : p.rest ≠ []) :
    (read dialect p).2.rest.length < p.rest.length := by
  have hs : ∀ (n m : Nat), ((p.skip (n + 1)).skip m).rest.length < p.rest.length := fun n m =>
    Nat.lt_of_le_of_lt (Place.length_rest_skip_le _ _) (length_skip_lt h n)
  have ht : (p.rest.take 1 ++ leading opensMarkup (p.rest.drop 1)).length =
      (leading opensMarkup (p.rest.drop 1)).length + 1 := by
    have : 0 < p.rest.length := List.length_pos_iff.2 h
    rw [List.length_append, List.length_take]
    omega
  unfold read
  dsimp only
  split
  · simp only [readText, ht]
    exact length_skip_lt h _
  · split
    · exact hs _ _
    · split
      · exact hs _ _
      · split
        · exact hs _ _
        · split
          · exact hs _ _
          · split
            · exact Nat.lt_of_le_of_lt (Place.length_rest_skip_le _ _)
                (Nat.lt_of_le_of_lt (Place.length_rest_skip_le _ _) (length_skip_lt h 1))
            · exact length_readStartTag_lt dialect h

def scan (dialect : Dialect) (p : Place) : List Token :=
  if _h : p.rest = [] then []
  else
    let step := read dialect p
    step.1 ++ scan dialect step.2
termination_by p.rest.length
decreasing_by exact length_read_lt dialect _h

def tokens (dialect : Dialect) (markup : String) : List Token :=
  scan dialect (.start markup.toList)

end MarkupForest.Token
