import MarkupForest.Proofs.Growth.Document

namespace MarkupForest

open Forest

variable {f k : Forest} {m : Manner} {lines : LineIndex} {id x : NodeId} {body : Body} {t : Token}
  {span : Span} {offset stop : Nat} {ids : List (NodeId × String)}

namespace SourceRange

def Within (limit : Nat) (r : SourceRange) : Prop :=
  r.start.offset ≤ r.stop.offset ∧ r.stop.offset ≤ limit

theorem Within.mono {r : SourceRange} (h : r.Within offset) (hle : offset ≤ stop) : r.Within stop :=
  ⟨h.1, h.2.trans hle⟩

theorem Within.isTracked {r : SourceRange} (h : r.Within offset) (hlt : offset < Position.nowhere) :
    r.isTracked = true := by
  have hne : r.start.offset ≠ Position.nowhere := Nat.ne_of_lt ((h.1.trans h.2).trans_lt hlt)
  simpa [SourceRange.isTracked, Position.isTracked] using hne

end SourceRange

namespace Forest

def startsAt (f : Forest) (x : NodeId) : SourceRange := (f.sourceRange x).toOption.getD .untracked

def endsAt (f : Forest) (x : NodeId) : SourceRange := (f.endSourceRange x).toOption.getD .untracked

def extent (f : Forest) (x : NodeId) : Nat :=
  if f.isElement x then (f.endsAt x).stop.offset else (f.startsAt x).stop.offset

def ranges? (f : Forest) (x : NodeId) : Option NodeRanges := (f.get? x).bind Node.ranges

theorem startsAt_eq : f.startsAt x = ((f.ranges? x).map NodeRanges.start).getD .untracked := by
  unfold startsAt sourceRange ranges? find
  cases f.get? x with
  | none => rfl
  | some n =>
    cases hr : n.ranges <;>
      simp [hr, bind, Except.bind, pure, Except.pure, Except.toOption]

theorem endsAt_eq : f.endsAt x = ((f.ranges? x).map NodeRanges.stop).getD .untracked := by
  unfold endsAt endSourceRange ranges? find
  cases f.get? x with
  | none => rfl
  | some n =>
    cases hr : n.ranges <;>
      simp [hr, bind, Except.bind, pure, Except.pure, Except.toOption]

theorem ranges?_setRanges {start stop : SourceRange} (h : id < f.size) :
    (f.setRanges id start stop).ranges? x = if x = id then some ⟨start, stop⟩ else f.ranges? x := by
  obtain ⟨n, hn⟩ := exists_get? h
  unfold ranges? setRanges
  rw [get?_modify]
  by_cases hx : x = id
  · rw [hx, if_pos rfl, if_pos rfl, hn]
    rfl
  · rw [if_neg (Ne.symm hx), if_neg hx]

theorem ranges?_setEndRange {stop : SourceRange} (h : id < f.size) :
    (f.setEndRange id stop).ranges? x =
      if x = id then some ⟨f.startsAt id, stop⟩ else f.ranges? x := by
  obtain ⟨n, hn⟩ := exists_get? h
  rw [startsAt_eq]
  unfold ranges? setEndRange
  rw [get?_modify]
  by_cases hx : x = id
  · rw [hx, if_pos rfl, if_pos rfl, hn]
    cases hr : n.ranges <;> simp [hr]
  · rw [if_neg (Ne.symm hx), if_neg hx]

theorem ranges?_attach_push (hp : id < f.size) :
    ((f.push (.ofBody body)).attach id f.size).ranges? x =
      if x = f.size then none else f.ranges? x := by
  unfold ranges?
  rw [get?_attach_push hp]
  split
  · rfl
  · split
    · next hx =>
      rw [hx]
      cases f.get? id <;> rfl
    · rfl

theorem startsAt_setEndRange {stop : SourceRange} (h : id < f.size) :
    (f.setEndRange id stop).startsAt x = f.startsAt x := by
  rw [startsAt_eq, ranges?_setEndRange h]
  split
  · next hx =>
    rw [hx]
    rfl
  · rw [startsAt_eq]

theorem endsAt_setEndRange {stop : SourceRange} (h : id < f.size) :
    (f.setEndRange id stop).endsAt x = if x = id then stop else f.endsAt x := by
  rw [endsAt_eq, ranges?_setEndRange h]
  split
  · rfl
  · rw [endsAt_eq]

theorem parent?_eq_hung? : f.parent? x = (f.hung? x).bind Prod.fst := by
  unfold parent? hung?
  cases f.get? x <;> rfl

theorem childIds_eq_hung? :
    f.childIds x = ((f.hung? x).map fun e => (Node.ofBody e.2).childIds).getD [] := by
  unfold childIds hung?
  cases f.get? x <;> rfl

theorem isElement_eq_hung? : f.isElement x = ((f.hung? x).any fun e => e.2.kind == .element) := by
  unfold isElement hung?
  cases f.get? x <;> rfl

section SameHung

variable (h : ∀ x, k.hung? x = f.hung? x)
include h

theorem parent?_of_hung? (x : NodeId) : k.parent? x = f.parent? x := by
  rw [parent?_eq_hung?, h, parent?_eq_hung?]

theorem childIds_of_hung? (x : NodeId) : k.childIds x = f.childIds x := by
  rw [childIds_eq_hung?, h, childIds_eq_hung?]

theorem isElement_of_hung? (x : NodeId) : k.isElement x = f.isElement x := by
  rw [isElement_eq_hung?, h, isElement_eq_hung?]

end SameHung

end Forest

namespace Growth

variable {g : Growth} {c e p : NodeId}

theorem endAt_marks (hl : m.lines = some lines) (hids : ∀ e ∈ ids, e.1 < f.size) :
    (endAt m offset ids f).startsAt x = f.startsAt x ∧
      (endAt m offset ids f).endsAt x =
        if x ∈ ids.map Prod.fst then lines.range offset offset else f.endsAt x := by
  unfold endAt
  rw [hl]
  show (List.foldl _ f ids).startsAt x = _ ∧ (List.foldl _ f ids).endsAt x = _
  induction ids generalizing f with
  | nil => exact ⟨rfl, rfl⟩
  | cons y ys ih =>
    have hy : y.1 < f.size := hids y List.mem_cons_self
    obtain ⟨hstart, hend⟩ := ih (f := f.setEndRange y.1 (lines.range offset offset))
      fun e he => by simpa [setEndRange] using hids e (List.mem_cons_of_mem y he)
    rw [List.foldl_cons]
    refine ⟨hstart.trans (startsAt_setEndRange hy), hend.trans ?_⟩
    rw [endsAt_setEndRange hy, List.map_cons]
    by_cases hx : x ∈ ys.map Prod.fst
    · rw [if_pos hx, if_pos (List.mem_cons_of_mem _ hx)]
    · rw [if_neg hx]
      by_cases hxy : x = y.1
      · rw [if_pos hxy, if_pos (by simp [hxy])]
      · rw [if_neg hxy, if_neg (by simpa [hxy] using hx)]

theorem grow_ranges? (hl : m.lines = some lines) (hlt : g.current < g.forest.size) :
    (g.grow m body span).forest.ranges? x =
      if x = g.forest.size then some ⟨lines.spanRange span, .untracked⟩
      else g.forest.ranges? x := by
  have hnew : g.forest.size <
      ((g.forest.push (.ofBody body)).attach g.current g.forest.size).size := by simp
  unfold grow
  simp only [hl]
  rw [ranges?_setRanges hnew]
  split
  · rfl
  · next hx => rw [ranges?_attach_push hlt, if_neg hx]

theorem grow_marks (hl : m.lines = some lines) (hlt : g.current < g.forest.size) :
    ((g.grow m body span).forest.startsAt x =
      if x = g.forest.size then lines.spanRange span else g.forest.startsAt x) ∧
    (x ≠ g.forest.size → (g.grow m body span).forest.endsAt x = g.forest.endsAt x) := by
  rw [startsAt_eq, endsAt_eq, grow_ranges? hl hlt]
  constructor
  · split
    · rfl
    · rw [startsAt_eq]
  · intro hx
    rw [if_neg hx, endsAt_eq]

theorem step_marks (hl : m.lines = some lines) (hlt : g.current < g.forest.size)
    (hb : t.body? m = some body) :
    (∀ x, (g.step m t).forest.startsAt x =
      if x = g.forest.size then lines.spanRange t.span else g.forest.startsAt x) ∧
    (∀ x, x ≠ g.forest.size → (g.step m t).forest.endsAt x = g.forest.endsAt x) ∧
    ((∃ tag, (g.step m t).opened = (g.forest.size, tag) :: g.opened) ∨
      (g.step m t).opened = g.opened ∧ (body.kind = .element →
        (g.step m t).forest.endsAt g.forest.size = lines.range t.span.stop t.span.stop)) := by
  cases t with
  | endTag name span => cases hb
  | startTag name as selfClosing span =>
    simp only [step, startTag, Token.span]
    split
    · -- the element is ended at once, where its tag stops
      have hnew : ∀ e ∈ [(g.forest.size, m.cases.tagName name)], e.1 < (g.grow m (.element
          (m.cases.tagName name) ⟨none, if as = [] then none else some (attributesOf m as)⟩)
            span).forest.size := by
        simp [size_grow]
      refine ⟨fun x => ?_, fun x hx => ?_, .inr ⟨rfl, fun _ => ?_⟩⟩
      · rw [(endAt_marks hl hnew).1, (grow_marks hl hlt).1]
      · rw [(endAt_marks hl hnew).2, if_neg (by simpa using hx), (grow_marks hl hlt).2 hx]
      · rw [(endAt_marks hl hnew).2, if_pos (by simp)]
    · exact ⟨fun x => (grow_marks hl hlt).1, fun x hx => (grow_marks hl hlt).2 hx, .inl ⟨_, rfl⟩⟩
  | _ =>
    cases hb
    exact ⟨fun x => (grow_marks hl hlt).1, fun x hx => (grow_marks hl hlt).2 hx,
      .inr ⟨rfl, fun h => by cases h⟩⟩

section Views

variable {f : Forest} (hg : g.Beside f) (hb : t.body? m = some body)
include hb

theorem lt_of_lt_step (hx : x < (g.step m t).forest.size) (hne : x ≠ g.forest.size) :
    x < g.forest.size :=
  Nat.lt_of_le_of_ne (Nat.lt_succ_iff.mp (hx.trans_eq (step_node hb).1)) hne

theorem mem_opened_step (hne : x ≠ g.forest.size) :
    x ∈ (g.step m t).opened.map Prod.fst ↔ x ∈ g.opened.map Prod.fst := by
  have hopened : (g.step m t).opened = _ := congrArg Prod.snd (follow_step (g := g) t)
  rw [hopened]
  rcases Token.follow_node (s := (g.forest.size, g.opened)) hb with h | ⟨tag, h⟩
  · rw [h]
  · simp [h, hne]

theorem parent?_step (x : NodeId) : (g.step m t).forest.parent? x =
    if x = g.forest.size then some g.current else g.forest.parent? x := by
  rw [parent?_of_hung? (step_node hb).2, parent?_attach (by simp), parent?_push]
  split <;> rfl

include hg

theorem childIds_step (x : NodeId) : (g.step m t).forest.childIds x =
    if x = g.forest.size then []
    else if x = g.current then g.forest.childIds g.current ++ [g.forest.size]
    else g.forest.childIds x := by
  obtain ⟨l, hl⟩ := Option.isSome_iff_exists.mp hg.current.2
  rw [childIds_of_hung? (step_node hb).2, childIds_hang hl (Token.childIds_of_body? hb)]

theorem isElement_step (hx : x ≠ g.forest.size) :
    (g.step m t).forest.isElement x = g.forest.isElement x := by
  rw [isElement_eq_hung?, (step_node hb).2, hung?_attach_push hg.current_lt, if_neg hx,
    isElement_eq_hung?]
  split
  · cases g.forest.hung? x with
    | none => rfl
    | some e => simp [Body.push]
  · rfl

theorem extent_step (hl : m.lines = some lines) (hx : x ≠ g.forest.size) :
    (g.step m t).forest.extent x = g.forest.extent x := by
  obtain ⟨hstarts, hends, _⟩ := step_marks (g := g) hl hg.current_lt hb
  rw [extent, extent, isElement_step hg hb hx, hstarts, if_neg hx, hends x hx]

theorem kind_of_isElement (h : (g.step m t).forest.isElement g.forest.size = true) :
    body.kind = .element := by
  rw [isElement_eq_hung?, (step_node hb).2, hung?_attach_push hg.current_lt, if_pos rfl] at h
  simpa using h

end Views

section EndTag

variable {name tag : String} {outer : List (NodeId × String)}
  (hl : m.lines = some lines) (hlt : ∀ e ∈ g.opened, e.1 < g.forest.size)
  (hdrop : g.opened.dropWhile (·.2 != m.cases.tagName name) = (id, tag) :: outer)
include hdrop

theorem opened_eq : g.opened =
    (g.opened.takeWhile (·.2 != m.cases.tagName name) ++ [(id, tag)]) ++ outer := by
  have h := List.takeWhile_append_dropWhile (p := (·.2 != m.cases.tagName name)) (l := g.opened)
  rw [hdrop] at h
  rw [List.append_assoc]
  exact h.symm

theorem opened_endTag : (g.endTag m name span).opened = outer := by
  simp only [endTag, hdrop]

include hl hlt

theorem endTag_marks :
    (g.endTag m name span).forest.startsAt x = g.forest.startsAt x ∧
    (g.endTag m name span).forest.endsAt x =
      if x = id then lines.spanRange span
      else if x ∈ (g.opened.takeWhile (·.2 != m.cases.tagName name)).map Prod.fst then
        lines.range span.start span.start
      else g.forest.endsAt x := by
  have hinner : ∀ e ∈ g.opened.takeWhile (·.2 != m.cases.tagName name), e.1 < g.forest.size :=
    fun e he => hlt e ((List.takeWhile_prefix _).subset he)
  have hid : id < (endAt m span.start (g.opened.takeWhile (·.2 != m.cases.tagName name))
      g.forest).size := by
    rw [size_endAt]
    exact hlt (id, tag) ((List.dropWhile_suffix _).subset (hdrop ▸ List.mem_cons_self))
  simp only [endTag, hdrop, hl]
  rw [startsAt_setEndRange hid, endsAt_setEndRange hid, (endAt_marks hl hinner).1,
    (endAt_marks hl hinner).2]
  exact ⟨rfl, rfl⟩

end EndTag

end Growth

end MarkupForest
