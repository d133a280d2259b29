import MarkupForest.Proofs.Growth.Ranges
import MarkupForest.Proofs.Token.Tiling

namespace MarkupForest

open Forest Text

variable {f k : Forest} {m : Manner} {lines : LineIndex} {id x : NodeId} {body : Body} {t : Token}
  {span : Span} {ts : List Token} {offset stop : Nat}

namespace Growth

variable {g : Growth} {c e p : NodeId}

structure RangesNest (f : Forest) (offset : Nat) (g : Growth) : Prop where
  beside : g.Beside f
  root : g.root = f.size
  path : (g.opened.map Prod.fst ++ [f.size]).IsChain fun c p => g.forest.parent? c = some p
  younger : ∀ c p, f.size ≤ p → g.forest.parent? c = some p → p < c
  starts : ∀ x, f.size < x → x < g.forest.size → (g.forest.startsAt x).Within offset
  ends : ∀ x, f.size < x → x < g.forest.size → g.forest.isElement x = true →
    x ∉ g.opened.map Prod.fst → (g.forest.endsAt x).Within offset
  inside : ∀ c e, f.size < e → g.forest.parent? c = some e →
    (g.forest.startsAt e).stop.offset ≤ (g.forest.startsAt c).start.offset
  enclosed : ∀ c e, f.size < e → g.forest.parent? c = some e → e ∉ g.opened.map Prod.fst →
    g.forest.extent c ≤ (g.forest.endsAt e).start.offset
  apart : ∀ p, f.size ≤ p → (g.forest.childIds p).IsChain fun c d =>
    c ∉ g.opened.map Prod.fst ∧ g.forest.extent c ≤ (g.forest.startsAt d).start.offset

namespace RangesNest

variable {f : Forest} {pre outer : List (NodeId × String)}

theorem sorted (hg : RangesNest f offset g) :
    (g.opened.map Prod.fst ++ [f.size]).Pairwise fun c p => p < c := by
  have hnew : ∀ p ∈ g.opened.map Prod.fst ++ [f.size], f.size ≤ p := by
    intro p hp
    rcases List.mem_append.mp hp with hp | hp
    · obtain ⟨e, he, rfl⟩ := List.mem_map.mp hp
      exact (hg.beside.opened e he).1
    · rw [List.mem_singleton.mp hp]
  have hchain : (g.opened.map Prod.fst ++ [f.size]).IsChain (· > ·) :=
    hg.path.imp_of_mem_imp fun c p _ hp hc => hg.younger c p (hnew p hp) hc
  exact hchain.pairwise

theorem parent_of_open (hg : RangesNest f offset g) (hc : c ∈ g.opened.map Prod.fst)
    (hp : g.forest.parent? c = some p) (hlt : f.size < p) : p ∈ g.opened.map Prod.fst := by
  obtain ⟨inner, rest, hsplit⟩ := List.append_of_mem hc
  have hpath := hg.path
  rw [hsplit, List.append_assoc] at hpath
  rw [hsplit]
  have hup := hpath.right_of_append
  rw [List.cons_append, List.isChain_cons] at hup
  cases rest with
  | nil =>
    have hq := hup.1 f.size (by simp)
    rw [hp, Option.some_inj] at hq
    exact absurd hq (Nat.ne_of_gt hlt)
  | cons q rest =>
    have hq := hup.1 q (by simp)
    rw [hp, Option.some_inj] at hq
    simp [hq]

theorem current_mem (hg : RangesNest f offset g) (h : f.size < g.current) :
    g.current ∈ g.opened.map Prod.fst := by
  rw [current_eq_headD] at h ⊢
  cases hids : g.opened.map Prod.fst with
  | nil => simp [hids, hg.root] at h
  | cons y ys => simp

theorem extent_le (hg : RangesNest f offset g) (hlt : f.size < x) (hx : x < g.forest.size)
    (hclosed : x ∉ g.opened.map Prod.fst) : g.forest.extent x ≤ offset := by
  unfold extent
  split
  · next he => exact (hg.ends x hlt hx he hclosed).2
  · exact (hg.starts x hlt hx).2

theorem closed_of_parent_current (hg : RangesNest f offset g)
    (hc : g.forest.parent? c = some g.current) : c ∉ g.opened.map Prod.fst := by
  intro hopen
  have hlt := hg.younger c g.current hg.beside.current.1 hc
  have hsorted := hg.sorted
  rw [current_eq_headD] at hlt
  cases ho : g.opened.map Prod.fst with
  | nil => simp [ho] at hopen
  | cons y ys =>
    rw [ho] at hsorted hopen hlt
    rw [List.headD_cons] at hlt
    rcases List.mem_cons.mp hopen with rfl | hmem
    · exact Nat.lt_irrefl _ hlt
    · have hyc : c < y := (List.pairwise_cons.mp hsorted).1 c (List.mem_append_left _ hmem)
      exact Nat.lt_asymm hlt hyc

theorem close (hg : RangesNest f offset g) (hopened : g.opened = pre ++ outer)
    (hk : Beside f ⟨k, g.root, outer⟩) (hsize : k.size = g.forest.size)
    (hhung : ∀ x, k.hung? x = g.forest.hung? x)
    (hstarts : ∀ x, k.startsAt x = g.forest.startsAt x)
    (hkept : ∀ x, x ∉ pre.map Prod.fst → k.endsAt x = g.forest.endsAt x)
    (hends : ∀ x ∈ pre.map Prod.fst, (k.endsAt x).start.offset = offset ∧ (k.endsAt x).Within stop)
    (hinner : ∀ c e, c ∈ pre.map Prod.fst → e ∈ pre.map Prod.fst → e < c →
      (k.endsAt c).stop.offset ≤ offset) (hstop : offset ≤ stop) :
    RangesNest f stop ⟨k, g.root, outer⟩ := by
  have hmem : ∀ x, x ∈ g.opened.map Prod.fst ↔ x ∈ pre.map Prod.fst ∨ x ∈ outer.map Prod.fst := by
    simp [hopened]
  have hsorted := hg.sorted
  rw [hopened, List.map_append, List.append_assoc] at hsorted
  have hbelow : ∀ c ∈ pre.map Prod.fst, ∀ p ∈ outer.map Prod.fst, p < c := fun c hc p hp =>
    (List.pairwise_append.mp hsorted).2.2 c hc p (List.mem_append_left _ hp)
  have hparent : ∀ x, k.parent? x = g.forest.parent? x := parent?_of_hung? hhung
  have helement : ∀ x, k.isElement x = g.forest.isElement x := isElement_of_hung? hhung
  have hextent : ∀ x, x ∉ g.opened.map Prod.fst → k.extent x = g.forest.extent x := by
    intro x hx
    rw [extent, extent, helement, hstarts, hkept x fun h => hx ((hmem x).mpr (.inl h))]
  refine ⟨hk, hg.root, ?_, ?_, ?_, ?_, ?_, ?_, ?_⟩
  · have hpath := hg.path
    rw [hopened, List.map_append, List.append_assoc] at hpath
    simp only [hparent]
    exact hpath.right_of_append
  · intro c p hp hc
    exact hg.younger c p hp ((hparent c).symm.trans hc)
  · intro x hlt hx
    rw [hstarts]
    exact (hg.starts x hlt (hsize ▸ hx)).mono hstop
  · intro x hlt hx he hclosed
    by_cases hpre : x ∈ pre.map Prod.fst
    · exact (hends x hpre).2
    · rw [hkept x hpre]
      refine (hg.ends x hlt (hsize ▸ hx) ((helement x).symm.trans he) fun h => ?_).mono hstop
      exact ((hmem x).mp h).elim hpre hclosed
  · intro c e he hc
    rw [hstarts, hstarts]
    exact hg.inside c e he ((hparent c).symm.trans hc)
  · intro c e he hc hclosed
    rw [hparent] at hc
    have hec : e < c := hg.younger c e (Nat.le_of_lt he) hc
    by_cases hpre : e ∈ pre.map Prod.fst
    · rw [(hends e hpre).1]
      by_cases hopen : c ∈ g.opened.map Prod.fst
      · -- an open child of what is closed now is closed with it
        have hcpre : c ∈ pre.map Prod.fst := ((hmem c).mp hopen).resolve_right fun hout => by
          exact Nat.lt_asymm hec (hbelow e hpre c hout)
        unfold extent
        split
        · exact hinner c e hcpre hpre hec
        · rw [hstarts]
          exact (hg.starts c (he.trans hec) (lt_of_parent? hc)).2
      · rw [hextent c hopen]
        exact hg.extent_le (he.trans hec) (lt_of_parent? hc) hopen
    · have hnot : e ∉ g.opened.map Prod.fst := fun h => ((hmem e).mp h).elim hpre hclosed
      rw [hextent c fun h => hnot (hg.parent_of_open h hc he), hkept e hpre]
      exact hg.enclosed c e he hc hnot
  · intro p hp
    rw [childIds_of_hung? hhung]
    refine (hg.apart p hp).imp fun c d h => ⟨fun hout => h.1 ((hmem c).mpr (.inr hout)), ?_⟩
    rw [hextent c h.1, hstarts]
    exact h.2

theorem ne_of_parent? (hg : RangesNest f offset g) (h : g.forest.parent? c = some p) :
    c ≠ g.forest.size ∧ p ≠ g.forest.size :=
  ⟨Nat.ne_of_lt (lt_of_parent? h), Nat.ne_of_lt (hg.beside.wellFormed.parent_lt h)⟩

section Node

variable (hg : RangesNest f offset g) (hl : m.lines = some lines) (hb : t.body? m = some body)
include hg hl hb

theorem path_node : ((g.step m t).opened.map Prod.fst ++ [f.size]).IsChain fun c p =>
    (g.step m t).forest.parent? c = some p := by
  have hkept : (g.opened.map Prod.fst ++ [f.size]).IsChain fun c p =>
      (g.step m t).forest.parent? c = some p := by
    refine hg.path.imp fun c p h => ?_
    rw [parent?_step hb, if_neg (hg.ne_of_parent? h).1, h]
  rcases (step_marks hl hg.beside.current_lt hb).2.2 with ⟨tag, ho⟩ | ⟨ho, _⟩
  · rw [ho, List.map_cons, List.cons_append]
    refine .cons hkept fun p hp => ?_
    rw [parent?_step hb, if_pos rfl, current_eq_headD, hg.root]
    cases hids : g.opened.map Prod.fst <;> simpa [hids] using hp
  · rwa [ho]

theorem apart_node (hstart : t.span.start = offset) (hp : f.size ≤ p) :
    ((g.step m t).forest.childIds p).IsChain fun c d => c ∉ (g.step m t).opened.map Prod.fst ∧
      (g.step m t).forest.extent c ≤ ((g.step m t).forest.startsAt d).start.offset := by
  have hstarts := (step_marks (g := g) hl hg.beside.current_lt hb).1
  have hold : ∀ c q, c ∈ g.forest.childIds q → c ≠ g.forest.size := fun c q hc =>
    (hg.ne_of_parent? (hg.beside.wellFormed.mem_iff.mp hc)).1
  have hkept : (g.forest.childIds p).IsChain fun c d =>
      c ∉ (g.step m t).opened.map Prod.fst ∧
        (g.step m t).forest.extent c ≤ ((g.step m t).forest.startsAt d).start.offset := by
    refine (hg.apart p hp).imp_of_mem_imp fun c d hc hd h => ?_
    rw [mem_opened_step hb (hold c p hc), extent_step hg.beside hb hl (hold c p hc), hstarts,
      if_neg (hold d p hd)]
    exact h
  rw [childIds_step hg.beside hb]
  split
  · exact .nil
  · split
    · next hpc =>
      rw [hpc] at hkept hp
      refine hkept.append (.singleton _) fun c hc d hd => ?_
      obtain rfl : d = g.forest.size := by simpa using hd.symm
      have hc := List.mem_of_mem_getLast? hc
      have hparent := hg.beside.wellFormed.mem_iff.mp hc
      have hnot := hg.closed_of_parent_current hparent
      have hnew := hg.younger c g.current hp hparent
      rw [mem_opened_step hb (hold c _ hc), extent_step hg.beside hb hl (hold c _ hc), hstarts,
        if_pos rfl]
      refine ⟨hnot, ?_⟩
      exact (hg.extent_le (hp.trans_lt hnew) (lt_of_parent? hparent) hnot).trans_eq hstart.symm
    · exact hkept

theorem node (hstart : t.span.start = offset) (hspan : t.span.start ≤ t.span.stop) :
    RangesNest f t.span.stop (g.step m t) := by
  have hcur := hg.beside.current_lt
  obtain ⟨hstarts, hends, hopened⟩ := step_marks (g := g) hl hcur hb
  have hparent := parent?_step (g := g) hb
  refine ⟨hg.beside.step t, (root_step t).trans hg.root, hg.path_node hl hb, ?_, ?_, ?_, ?_, ?_,
    fun p => hg.apart_node hl hb hstart⟩
  · intro c p hp hc
    rw [hparent] at hc
    split at hc
    · next hnew =>
      rw [hnew, ← Option.some_inj.mp hc]
      exact hcur
    · exact hg.younger c p hp hc
  · intro x hnew hx
    rw [hstarts]
    split
    · exact ⟨hspan, Nat.le_refl _⟩
    · next hne => exact (hg.starts x hnew (lt_of_lt_step hb hx hne)).mono (hstart ▸ hspan)
  · intro x hnew hx he hclosed
    by_cases hne : x = g.forest.size
    · rcases hopened with ⟨tag, ho⟩ | ⟨_, hend⟩
      · exact absurd (by simp [ho, hne]) hclosed
      · rw [hne] at he ⊢
        rw [hend (kind_of_isElement hg.beside hb he)]
        exact ⟨Nat.le_refl _, Nat.le_refl _⟩
    · rw [isElement_step hg.beside hb hne] at he
      rw [mem_opened_step hb hne] at hclosed
      rw [hends x hne]
      exact (hg.ends x hnew (lt_of_lt_step hb hx hne) he hclosed).mono (hstart ▸ hspan)
  · intro c e he hc
    rw [hparent] at hc
    split at hc
    · next hnew =>
      obtain rfl := Option.some_inj.mp hc
      rw [hstarts, hstarts, if_neg (Nat.ne_of_lt hcur), if_pos hnew]
      exact (hg.starts g.current he hcur).2.trans_eq hstart.symm
    · rw [hstarts, hstarts, if_neg (hg.ne_of_parent? hc).1, if_neg (hg.ne_of_parent? hc).2]
      exact hg.inside c e he hc
  · intro c e he hc hclosed
    rw [hparent] at hc
    split at hc
    · -- the parent of the new node is open
      obtain rfl := Option.some_inj.mp hc
      rw [mem_opened_step hb (Nat.ne_of_lt hcur)] at hclosed
      exact absurd (hg.current_mem he) hclosed
    · rw [mem_opened_step hb (hg.ne_of_parent? hc).2] at hclosed
      rw [extent_step hg.beside hb hl (hg.ne_of_parent? hc).1, hends e (hg.ne_of_parent? hc).2]
      exact hg.enclosed c e he hc hclosed

end Node

theorem lt_size (hg : RangesNest f offset g) : ∀ e ∈ g.opened, e.1 < g.forest.size := fun e he => by
  obtain ⟨l, hl⟩ := Option.isSome_iff_exists.mp (hg.beside.opened e he).2
  exact lt_of_childList? hl

theorem mono (hg : RangesNest f offset g) (hle : offset ≤ stop) : RangesNest f stop g :=
  hg.close (show g.opened = [] ++ g.opened from rfl) hg.beside rfl (fun _ => rfl) (fun _ => rfl)
    (fun _ _ => rfl) (by simp) (by simp) hle

theorem endTag {name : String} (hg : RangesNest f offset g) (hl : m.lines = some lines)
    (hstart : span.start = offset) (hspan : span.start ≤ span.stop) :
    RangesNest f span.stop (g.endTag m name span) := by
  cases hdrop : g.opened.dropWhile (·.2 != m.cases.tagName name) with
  | nil =>
    have hsame : g.endTag m name span = g := by simp only [Growth.endTag, hdrop]
    rw [hsame]
    exact hg.mono (hstart ▸ hspan)
  | cons e outer =>
    obtain ⟨id, tag⟩ := e
    have hroot : (g.endTag m name span).root = g.root := root_step (.endTag name span)
    have hclosed : RangesNest f span.stop ⟨(g.endTag m name span).forest, g.root, outer⟩ := by
      have hbeside : Beside f (g.endTag m name span) := hg.beside.endTag
      have hend := step_end (m := m) (g := g) (t := .endTag name span) rfl
      have hsplit := opened_eq hdrop
      have hsorted := hg.sorted
      rw [hsplit, List.map_append, List.append_assoc, List.map_append, List.append_assoc] at hsorted
      have hmarks : ∀ x, (g.endTag m name span).forest.startsAt x = _ ∧
          (g.endTag m name span).forest.endsAt x = _ := fun x => endTag_marks hl hg.lt_size hdrop
      refine hg.close hsplit ?_ hend.1 hend.2 (fun x => (hmarks x).1) ?_ ?_ ?_ (hstart ▸ hspan)
      · rw [← opened_endTag hdrop, ← hroot]
        exact hbeside
      · intro x hx
        rw [List.map_append, List.mem_append, not_or] at hx
        rw [(hmarks x).2, if_neg (by simpa using hx.2), if_neg hx.1]
      · intro x hx
        rw [(hmarks x).2, ← hstart]
        split
        · exact ⟨rfl, hspan, Nat.le_refl _⟩
        · next hne =>
          rw [List.map_append, List.mem_append] at hx
          rw [if_pos (hx.resolve_right (by simpa using hne))]
          exact ⟨rfl, Nat.le_refl _, hspan⟩
      · intro c e hc he hec
        rw [List.map_append, List.mem_append] at hc he
        have hinner := (List.pairwise_append.mp hsorted).2.2
        have hne : c ≠ id := by
          rintro rfl
          rcases he with he | he
          · exact Nat.lt_asymm hec (hinner e he c (by simp))
          · exact Nat.lt_irrefl _ ((List.mem_singleton.mp he) ▸ hec)
        rw [(hmarks c).2, if_neg hne, if_pos (hc.resolve_right (by simpa using hne)), ← hstart]
        exact Nat.le_refl _
    have heq : g.endTag m name span = ⟨(g.endTag m name span).forest, g.root, outer⟩ := by
      rw [← (opened_endTag hdrop : (g.endTag m name span).opened = outer), ← hroot]
    rw [heq]
    exact hclosed

theorem step (hg : RangesNest f offset g) (hl : m.lines = some lines)
    (hstart : t.span.start = offset)
    (hspan : t.span.start ≤ t.span.stop) : RangesNest f t.span.stop (g.step m t) := by
  cases hb : t.body? m with
  | some body => exact hg.node hl hb hstart hspan
  | none =>
    cases t with
    | endTag name span => exact hg.endTag hl hstart hspan
    | _ => cases hb

theorem run (hg : RangesNest f offset g) (hl : m.lines = some lines)
    (hcover : Token.Cover offset ts stop) (hspan : ∀ t ∈ ts, t.span.start ≤ t.span.stop) :
    RangesNest f stop (ts.foldl (Growth.step m) g) := by
  induction ts generalizing g offset with
  | nil => exact hcover ▸ hg
  | cons t ts ih =>
    have ht := hspan t List.mem_cons_self
    exact ih (hg.step hl hcover.1 ht) hcover.2 fun u hu => hspan u (List.mem_cons_of_mem t hu)

theorem finish (hg : RangesNest f offset g) (hl : m.lines = some lines) :
    RangesNest f offset ⟨g.finish m offset, g.root, []⟩ := by
  have hmarks : ∀ x, (endAt m offset g.opened g.forest).startsAt x = _ ∧
      (endAt m offset g.opened g.forest).endsAt x = _ := fun x => endAt_marks hl hg.lt_size
  refine hg.close (List.append_nil _).symm ?_ size_endAt (fun x => hung?_endAt)
    (fun x => (hmarks x).1) (fun x hx => ?_) (fun x hx => ?_) (fun c e hc _ _ => ?_) (Nat.le_refl _)
  · exact hg.beside.endAt offset (fun e he => (hg.beside.opened e he).1) (by simp)
  · exact (hmarks x).2.trans (if_neg hx)
  · rw [Growth.finish, (hmarks x).2, if_pos hx]
    exact ⟨rfl, Nat.le_refl _, Nat.le_refl _⟩
  · rw [Growth.finish, (hmarks c).2, if_pos hc]
    exact Nat.le_refl _

end RangesNest

end Growth

namespace Token

def ownElement? (m : Manner) (root : NodeId) (before : List Token) (name : String) :
    Option NodeId :=
  ((openAfter m (root + 1) before).find? (·.2 == m.cases.tagName name)).map Prod.fst

/-- Among the tokens an end tag at `span` closes the element by name. -/
def OwnEnd (m : Manner) (root : NodeId) (ts : List Token) (x : NodeId) (span : Span) : Prop :=
  ∃ before name after, ts = before ++ .endTag name span :: after ∧
    ownElement? m root before name = some x

theorem ownEnd_concat {root : NodeId} : OwnEnd m root (ts ++ [t]) x span ↔
    OwnEnd m root ts x span ∨
      ∃ name, t = .endTag name span ∧ ownElement? m root ts name = some x := by
  constructor
  · rintro ⟨before, name, after, hts, hx⟩
    rcases List.eq_nil_or_concat after with rfl | ⟨after, u, rfl⟩
    · obtain ⟨rfl, ht⟩ := List.append_inj' hts rfl
      exact .inr ⟨name, List.singleton_inj.mp ht, hx⟩
    · rw [List.concat_eq_append, ← List.cons_append, ← List.append_assoc] at hts
      exact .inl ⟨before, name, after, (List.append_inj' hts rfl).1, hx⟩
  · rintro (⟨before, name, after, rfl, hx⟩ | ⟨name, rfl, hx⟩)
    · exact ⟨before, name, after ++ [t], by simp, hx⟩
    · exact ⟨ts, name, [], rfl, hx⟩

end Token

namespace Growth

structure ElementEnds (m : Manner) (lines : LineIndex) (root : NodeId)
    (ts : List Token) (g : Growth) : Prop where
  follows : (g.forest.size, g.opened) = ts.foldl (Token.follow m) (root + 1, [])
  own : ∀ x span, Token.OwnEnd m root ts x span → x < g.forest.size ∧
    x ∉ g.opened.map Prod.fst ∧ g.forest.endsAt x = lines.spanRange span
  other : ∀ x, root < x → x < g.forest.size → g.forest.isElement x = true →
    x ∉ g.opened.map Prod.fst → (∀ span, ¬ Token.OwnEnd m root ts x span) →
      (g.forest.endsAt x).start = (g.forest.endsAt x).stop

namespace ElementEnds

variable {f : Forest} {g : Growth}

theorem follows_step (he : ElementEnds m lines f.size ts g) (t : Token) :
    ((g.step m t).forest.size, (g.step m t).opened) =
      (ts ++ [t]).foldl (Token.follow m) (f.size + 1, []) := by
  rw [follow_step, he.follows, List.foldl_append]
  rfl

theorem ownElement?_eq (he : ElementEnds m lines f.size ts g) (name : String) :
    Token.ownElement? m f.size ts name =
      (g.opened.dropWhile (·.2 != m.cases.tagName name)).head?.map Prod.fst := by
  have hopened : g.opened = Token.openAfter m (f.size + 1) ts := congrArg Prod.snd he.follows
  rw [Token.ownElement?, ← hopened, List.find?_eq_head?_dropWhile_not]
  rfl

theorem node (he : ElementEnds m lines f.size ts g) (hg : g.Beside f) (hl : m.lines = some lines)
    (hb : t.body? m = some body) : ElementEnds m lines f.size (ts ++ [t]) (g.step m t) := by
  obtain ⟨_, hends, hopened⟩ := step_marks (g := g) hl hg.current_lt hb
  have hown : ∀ x span, Token.OwnEnd m f.size (ts ++ [t]) x span ↔
      Token.OwnEnd m f.size ts x span := by
    intro x span
    rw [Token.ownEnd_concat, or_iff_left]
    rintro ⟨name, rfl, _⟩
    cases hb
  refine ⟨he.follows_step t, fun x span h => ?_, fun x hnew hx hel hclosed hnone => ?_⟩
  · obtain ⟨hlt, hclosed, hend⟩ := he.own x span ((hown x span).mp h)
    have hne : x ≠ g.forest.size := Nat.ne_of_lt hlt
    rw [mem_opened_step hb hne, hends x hne]
    exact ⟨(step_node hb).1 ▸ Nat.lt_succ_of_lt hlt, hclosed, hend⟩
  · by_cases hne : x = g.forest.size
    · rcases hopened with ⟨tag, ho⟩ | ⟨_, hend⟩
      · exact absurd (by simp [ho, hne]) hclosed
      · rw [hne] at hel ⊢
        rw [hend (kind_of_isElement hg hb hel)]
        rfl
    · rw [isElement_step hg hb hne] at hel
      rw [mem_opened_step hb hne] at hclosed
      rw [hends x hne]
      refine he.other x hnew (lt_of_lt_step hb hx hne) hel hclosed fun span h => ?_
      exact hnone span ((hown x span).mpr h)

section EndTag

variable {name : String} (he : ElementEnds m lines f.size ts g)
include he

theorem endTag_stray (hdrop : g.opened.dropWhile (·.2 != m.cases.tagName name) = []) :
    ElementEnds m lines f.size (ts ++ [.endTag name span]) (g.step m (.endTag name span)) := by
  have hfollows := he.follows_step (.endTag name span)
  have hsame : g.step m (.endTag name span) = g := by simp only [Growth.step, Growth.endTag, hdrop]
  have hown : Token.ownElement? m f.size ts name = none := by
    rw [he.ownElement?_eq, hdrop]
    rfl
  have hiff : ∀ x span', Token.OwnEnd m f.size (ts ++ [.endTag name span]) x span' ↔
      Token.OwnEnd m f.size ts x span' := by
    intro x span'
    rw [Token.ownEnd_concat, or_iff_left]
    rintro ⟨name', ht, hx⟩
    cases ht
    rw [hown] at hx
    cases hx
  rw [hsame] at hfollows ⊢
  refine ⟨hfollows, fun x span h => he.own x span ((hiff x span).mp h), ?_⟩
  intro x hnew hx hel hclosed hnone
  exact he.other x hnew hx hel hclosed fun span h => hnone span ((hiff x span).mpr h)

theorem endTag_match {tag : String} {outer : List (NodeId × String)} (hg : RangesNest f offset g)
    (hl : m.lines = some lines)
    (hdrop : g.opened.dropWhile (·.2 != m.cases.tagName name) = (id, tag) :: outer) :
    ElementEnds m lines f.size (ts ++ [.endTag name span]) (g.step m (.endTag name span)) := by
  have hown : Token.ownElement? m f.size ts name = some id := by
    rw [he.ownElement?_eq, hdrop]
    rfl
  have hiff : ∀ x span', Token.OwnEnd m f.size (ts ++ [.endTag name span]) x span' ↔
      Token.OwnEnd m f.size ts x span' ∨ span = span' ∧ id = x := by
    intro x span'
    rw [Token.ownEnd_concat]
    refine or_congr_right ⟨?_, ?_⟩
    · rintro ⟨name', ht, hx⟩
      cases ht
      rw [hown] at hx
      exact ⟨rfl, Option.some_inj.mp hx⟩
    · rintro ⟨rfl, rfl⟩
      exact ⟨name, rfl, hown⟩
  obtain ⟨hsize, hhung⟩ := step_end (g := g) (m := m) (t := .endTag name span) rfl
  have hopened : (g.step m (.endTag name span)).opened = outer := opened_endTag hdrop
  have hmarks : ∀ x, (g.step m (.endTag name span)).forest.endsAt x = _ :=
    fun x => (endTag_marks hl hg.lt_size hdrop).2
  have hsplit := opened_eq hdrop
  generalize g.opened.takeWhile (·.2 != m.cases.tagName name) = inner at hmarks hsplit
  have hsorted := hg.sorted
  rw [hsplit, List.map_append, List.append_assoc] at hsorted
  have hout : id ∉ outer.map Prod.fst := fun h => Nat.lt_irrefl id <|
    (List.pairwise_append.mp hsorted).2.2 id (by simp) id (List.mem_append_left _ h)
  have hmem : ∀ x, x ∈ g.opened.map Prod.fst ↔
      (x ∈ inner.map Prod.fst ∨ x = id) ∨ x ∈ outer.map Prod.fst := by
    simp [hsplit, or_assoc]
  have hid : id < g.forest.size := hg.lt_size (id, tag) (by simp [hsplit])
  have hkept : ∀ x, x ∉ g.opened.map Prod.fst →
      (g.step m (.endTag name span)).forest.endsAt x = g.forest.endsAt x := by
    intro x hx
    rw [hmem, not_or, not_or] at hx
    rw [hmarks, if_neg hx.1.2, if_neg hx.1.1]
  refine ⟨he.follows_step _, fun x span' h => ?_, fun x hnew hx hel hclosed hnone => ?_⟩
  · rw [hsize, hopened]
    rcases (hiff x span').mp h with h | ⟨rfl, rfl⟩
    · obtain ⟨hlt, hclosed, hend⟩ := he.own x span' h
      exact ⟨hlt, fun h => hclosed ((hmem x).mpr (.inr h)), (hkept x hclosed).trans hend⟩
    · exact ⟨hid, hout, by rw [hmarks, if_pos rfl]⟩
  · rw [hopened] at hclosed
    by_cases hx' : x ∈ g.opened.map Prod.fst
    · have hne : x ≠ id := fun h => hnone span ((hiff x span).mpr (.inr ⟨rfl, h.symm⟩))
      have hinner := (((hmem x).mp hx').resolve_right hclosed).resolve_right hne
      rw [hmarks, if_neg hne, if_pos hinner]
      rfl
    · rw [isElement_of_hung? hhung] at hel
      rw [hkept x hx']
      exact he.other x hnew (hsize ▸ hx) hel hx' fun span h =>
        hnone span ((hiff x span).mpr (.inl h))

end EndTag

theorem step (he : ElementEnds m lines f.size ts g) (hg : RangesNest f offset g)
    (hl : m.lines = some lines)
    (t : Token) : ElementEnds m lines f.size (ts ++ [t]) (g.step m t) := by
  cases hb : t.body? m with
  | some body => exact he.node hg.beside hl hb
  | none =>
    cases t with
    | endTag name span =>
      cases hdrop : g.opened.dropWhile (·.2 != m.cases.tagName name) with
      | nil => exact he.endTag_stray hdrop
      | cons e outer => exact he.endTag_match hg hl hdrop
    | _ => cases hb

theorem run {us : List Token} (he : ElementEnds m lines f.size ts g) (hg : RangesNest f offset g)
    (hl : m.lines = some lines) (hcover : Token.Cover offset us stop)
    (hspan : ∀ t ∈ us, t.span.start ≤ t.span.stop) :
    ElementEnds m lines f.size (ts ++ us) (us.foldl (Growth.step m) g) := by
  induction us generalizing g offset ts with
  | nil => rwa [List.append_nil]
  | cons t us ih =>
    have ht := hspan t List.mem_cons_self
    rw [List.append_cons]
    exact ih (he.step hg hl t) (hg.step hl hcover.1 ht) hcover.2 fun u hu =>
      hspan u (List.mem_cons_of_mem t hu)

theorem finish (he : ElementEnds m lines f.size ts g) (hg : RangesNest f offset g)
    (hl : m.lines = some lines) :
    (∀ x span, Token.OwnEnd m f.size ts x span →
      (g.finish m offset).endsAt x = lines.spanRange span) ∧
    ∀ x, f.size < x → x < g.forest.size → g.forest.isElement x = true →
      (∀ span, ¬ Token.OwnEnd m f.size ts x span) →
      ((g.finish m offset).endsAt x).start = ((g.finish m offset).endsAt x).stop := by
  have hmarks : ∀ x, (g.finish m offset).endsAt x = _ :=
    fun x => (endAt_marks hl hg.lt_size).2
  constructor
  · intro x span h
    obtain ⟨_, hclosed, hend⟩ := he.own x span h
    rw [hmarks, if_neg hclosed, hend]
  · intro x hnew hx hel hnone
    rw [hmarks]
    split
    · rfl
    · next hclosed => exact he.other x hnew hx hel hclosed hnone

end ElementEnds

end Growth

theorem Growth.rangesNest_atDocument (config : ReaderConfig) (baseUri : String)
    (hf : f.WellFormed) :
    RangesNest f 0 (atDocument config baseUri f) := by
  have hbeside := beside_atDocument config baseUri hf
  have hsize : (atDocument config baseUri f).forest.size = f.size + 1 := size_atDocument
  have hparent : ∀ {c p}, (atDocument config baseUri f).forest.parent? c = some p → p < f.size := by
    intro c p hc
    simp only [atDocument, start] at hc
    rw [parent?_push] at hc
    split at hc
    · cases hc
    · exact hf.parent_lt hc
  refine ⟨hbeside, rfl, .singleton _, ?_, ?_, ?_, ?_, ?_, ?_⟩
  · exact fun c p hp hc => absurd (hparent hc) (Nat.not_lt.mpr hp)
  · exact fun x hnew hx => absurd (hx.trans_eq hsize) (Nat.not_lt.mpr hnew)
  · exact fun x hnew hx => absurd (hx.trans_eq hsize) (Nat.not_lt.mpr hnew)
  · exact fun c e he hc => absurd (hparent hc) (Nat.lt_asymm he)
  · exact fun c e he hc => absurd (hparent hc) (Nat.lt_asymm he)
  · intro p hp
    have hnil : (atDocument config baseUri f).forest.childIds p = [] := by
      refine List.eq_nil_iff_forall_not_mem.mpr fun c hc => ?_
      exact absurd (hparent (hbeside.wellFormed.mem_iff.mp hc)) (Nat.not_lt.mpr hp)
    rw [hnil]
    exact .nil

theorem Growth.ends_atDocument (config : ReaderConfig) (baseUri : String) (m : Manner)
    (lines : LineIndex) (f : Forest) :
    ElementEnds m lines f.size [] (atDocument config baseUri f) where
  follows := Prod.ext size_atDocument rfl
  own x span h := by
    obtain ⟨before, name, after, hnil, _⟩ := h
    simp at hnil
  other x hnew hx := absurd (Nat.lt_of_lt_of_eq hx size_atDocument) (Nat.not_lt.mpr hnew)

/-- In the document `root` of `g`, source ranges nest as the nodes do. -/
structure Nested (config : ReaderConfig) (markup : String) (root : NodeId) (g : Forest) : Prop where
  order : g.descendants root = .ok (List.range' root (g.size - root))
  starts : ∀ x, root < x → x < g.size →
    (g.startsAt x).isTracked = true ∧ (g.startsAt x).Within markup.utf8ByteSize
  ends : ∀ x, root < x → x < g.size → g.isElement x = true →
    (g.endsAt x).isTracked = true ∧ (g.endsAt x).Within markup.utf8ByteSize
  children : ∀ e, root < e → ∀ c ∈ g.childIds e,
    (g.startsAt e).stop.offset ≤ (g.startsAt c).start.offset ∧
      g.extent c ≤ (g.endsAt e).start.offset
  siblings : ∀ p, root ≤ p →
    (g.childIds p).IsChain fun c d => g.extent c ≤ (g.startsAt d).start.offset
  ownEnd : ∀ x span,
    Token.OwnEnd (config.manner markup) root (Token.tokens config.dialect markup) x span →
      g.endsAt x = (LineIndex.ofText markup).spanRange span
  otherEnd : ∀ x, root < x → x < g.size → g.isElement x = true → (∀ span,
    ¬ Token.OwnEnd (config.manner markup) root (Token.tokens config.dialect markup) x span) →
      (g.endsAt x).isImplicit = true

theorem places_nest (h : Reachable f) (config : ReaderConfig) (markup baseUri : String)
    (htracks : config.tracksPlaces = true) (hlong : markup.utf8ByteSize < Position.nowhere) :
    ∃ g, readDocument config markup baseUri f = .ok f.size g ∧ Nested config markup f.size g := by
  have hf := h.wellFormed
  have hl : (config.manner markup).lines = some (.ofText markup) := by
    rw [ReaderConfig.manner, if_pos htracks]
  have htiles : Token.Cover 0 (Token.tokens config.dialect markup) markup.utf8ByteSize ∧
      ∀ t ∈ Token.tokens config.dialect markup, t.span.start ≤ t.span.stop := by
    obtain ⟨q, hq, hend, hread⟩ := Token.readsTo_scan config.dialect (Place.in_start markup.toList)
    rw [← width_toList]
    refine ⟨hread.cover hq hend, fun t ht => (hread.filled t ht).elim Nat.le_of_lt fun hs => ?_⟩
    rw [(hs.faithful hq hend).1]
  obtain ⟨hcover, hspan⟩ := htiles
  have hstart := Growth.rangesNest_atDocument config baseUri hf
  have hrun := hstart.run hl hcover hspan
  have hdone := hrun.finish hl
  obtain ⟨hown, hother⟩ := ((Growth.ends_atDocument config baseUri (config.manner markup)
    (.ofText markup) f).run hstart hl hcover hspan).finish hrun hl
  rw [List.nil_append] at hown hother
  rw [Growth.root_run] at hdone
  have hplant : ((Token.tokens config.dialect markup).foldl (Growth.step (config.manner markup))
      (Growth.atDocument config baseUri f)).finish (config.manner markup) markup.utf8ByteSize =
        f.plant config markup baseUri := rfl
  rw [hplant] at hdone hown hother
  have hmem : ∀ {c e}, c ∈ (f.plant config markup baseUri).childIds e →
      (f.plant config markup baseUri).parent? c = some e :=
    hdone.beside.wellFormed.mem_iff.mp
  have hends : ∀ x, f.size < x → x < (f.plant config markup baseUri).size →
      (f.plant config markup baseUri).isElement x = true →
      ((f.plant config markup baseUri).endsAt x).isTracked = true ∧
        ((f.plant config markup baseUri).endsAt x).Within markup.utf8ByteSize := by
    intro x hnew hx hel
    have hin := hdone.ends x hnew hx hel (by simp)
    exact ⟨hin.isTracked hlong, hin⟩
  refine ⟨f.plant config markup baseUri, rfl, descendants_plant hf, ?_, hends, ?_, ?_, hown, ?_⟩
  · intro x hnew hx
    have hin := hdone.starts x hnew hx
    exact ⟨hin.isTracked hlong, hin⟩
  · intro e he c hc
    exact ⟨hdone.inside c e he (hmem hc), hdone.enclosed c e he (hmem hc) (by simp)⟩
  · intro p hp
    exact (hdone.apart p hp).imp fun c d h => h.2
  · intro x hnew hx hel hnone
    have hwhere := hother x hnew (hx.trans_eq size_plant)
      ((isElement_of_hung? hung?_plant x).symm.trans hel) hnone
    rw [SourceRange.isImplicit, (hends x hnew hx hel).1, hwhere]
    simp

theorem places_nest_twoLists :
    Reachable twoLists ∧ (ReaderConfig.tracking .html true).tracksPlaces = true ∧
      "<ul><li>a<br></ul></p>b".utf8ByteSize < Position.nowhere ∧ ∃ g,
        readDocument (.tracking .html true) "<ul><li>a<br></ul></p>b" "" twoLists = .ok 6 g ∧
          Nested (.tracking .html true) "<ul><li>a<br></ul></p>b" 6 g ∧
          (g.endsAt 7).start.offset = 13 ∧ (g.endsAt 7).stop.offset = 18 ∧
          (g.endsAt 8).isImplicit = true ∧ (g.endsAt 8).start.offset = 13 ∧
          (g.endsAt 10).isImplicit = true ∧ (g.startsAt 11).start.offset = 22 := by
  have h : Reachable twoLists := reaches_runAll _
  have hlong : "<ul><li>a<br></ul></p>b".utf8ByteSize < Position.nowhere := by decide
  obtain ⟨g, hread, hg⟩ :=
    places_nest h (.tracking .html true) "<ul><li>a<br></ul></p>b" "" rfl hlong
  refine ⟨h, rfl, hlong, g, hread, hg, ?_⟩
  cases hread
  decide +kernel

end MarkupForest
