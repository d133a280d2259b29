import MarkupForest.Attribute.Cursor
import MarkupForest.Proofs.Attribute.HiddenEntries
import MarkupForest.Proofs.Edit.Runs

namespace MarkupForest.Cursor

variable {as : Attributes} {c : Cursor} {e : Entry} {front middle back before : List Entry}

def visited? : Except TreeError Reply → Option (Option Attribute)
  | .ok (.visited a) => some a
  | _ => none

def replies {σ : Type} (call : Call → σ → Except TreeError Reply × σ) :
    List Call → σ → List (Except TreeError Reply) × σ
  | [], s => ([], s)
  | c :: cs, s =>
    let (r, s) := call c s
    let (rs, s) := replies call cs s
    (r :: rs, s)

def State.start (as : Attributes) : State := ⟨as, .ofAttributes as⟩

section Effects

variable {t : State}

theorem check_ok (h : t.cursor.expected = t.store.changes) : check t = .ok () t := by
  rw [check, Edit.bind_ok Edit.get_eq, if_neg (not_not.mpr h.symm)]
  rfl

theorem check_error (h : t.cursor.expected ≠ t.store.changes) :
    check t = .error .concurrentChange t := by
  rw [check, Edit.bind_ok Edit.get_eq, if_pos (Ne.symm h)]
  rfl

theorem hasNext_ok (h : t.cursor.expected = t.store.changes) :
    Cursor.hasNext t = .ok (decide (t.cursor.settle t.store < t.store.entries.length))
      ⟨t.store, { t.cursor with index := t.cursor.settle t.store }⟩ := by
  rw [Cursor.hasNext, Edit.bind_ok (check_ok h)]
  rfl

theorem next_some (h : t.cursor.expected = t.store.changes)
    (he : t.store.entries[t.cursor.settle t.store]? = some e) :
    Cursor.next t = .ok (some e.toAttribute)
      ⟨t.store,
          ⟨t.cursor.expected, t.cursor.settle t.store + 1, some (t.cursor.settle t.store)⟩⟩ := by
  obtain ⟨hlt, -⟩ := List.getElem?_eq_some_iff.mp he
  rw [Cursor.next, Edit.bind_ok (hasNext_ok h), decide_eq_true hlt, if_pos rfl]
  show EStateM.Result.ok (t.store.entries[t.cursor.settle t.store]?.map Entry.toAttribute) _ = _
  rw [he]
  rfl

theorem next_none (h : t.cursor.expected = t.store.changes)
    (he : t.store.entries[t.cursor.settle t.store]? = none) :
    Cursor.next t = .ok none ⟨t.store, { t.cursor with index := t.cursor.settle t.store }⟩ := by
  have hge := List.getElem?_eq_none_iff.mp he
  rw [Cursor.next, Edit.bind_ok (hasNext_ok h), decide_eq_false (Nat.not_lt.mpr hge),
    if_neg Bool.false_ne_true]
  rfl

theorem remove_ok {i : Nat} (h : t.cursor.expected = t.store.changes)
    (hlast : t.cursor.last = some i) :
    Cursor.remove t = .ok () ⟨⟨t.store.entries.eraseIdx i, t.store.changes + 1⟩,
      ⟨t.store.changes + 1, i, none⟩⟩ := by
  rw [Cursor.remove, Edit.bind_ok (check_ok h), Edit.bind_ok Edit.get_eq, hlast]
  rfl

theorem remove_error (h : t.cursor.expected = t.store.changes) (hlast : t.cursor.last = none) :
    Cursor.remove t = .error (.unmet .nothingVisited) t := by
  have hsame : { t with cursor := { t.cursor with last := none } } = t := by rw [← hlast]
  rw [Cursor.remove, Edit.bind_ok (check_ok h), Edit.bind_ok Edit.get_eq, hlast, hsame]
  rfl

theorem State.call_of_ok {k : Call} {r : Reply} {u : State} (h : k.run t = .ok r u) :
    t.call k = (.ok r, u) := by
  rw [State.call, h]

theorem State.call_of_error {k : Call} {x : TreeError} {u : State} (h : k.run t = .error x u) :
    t.call k = (.error x, u) := by
  rw [State.call, h]

theorem call_late {k : Call} (h : t.cursor.expected ≠ t.store.changes) :
    t.call k = (.error .concurrentChange, t) := by
  have hnext : Cursor.hasNext t = .error .concurrentChange t := Edit.bind_error (check_error h)
  refine State.call_of_error ?_
  cases k with
  | hasNext => exact Edit.map_of_error hnext
  | next => exact Edit.map_of_error (Edit.bind_error hnext)
  | remove => exact Edit.map_of_error (Edit.bind_error (check_error h))

theorem shown_settle (h : as.entries[c.settle as]? = some e) : e.isHidden = false := by
  have hrest : as.entries.drop (c.settle as) =
      (as.entries.drop c.index).dropWhile Entry.isHidden := by
    have hsplit := List.takeWhile_append_dropWhile (p := Entry.isHidden)
      (l := as.entries.drop c.index)
    rw [settle, ← List.drop_drop]
    exact (congrArg (List.drop _) hsplit.symm).trans (List.drop_left ..)
  have hhead := List.head?_dropWhile_not Entry.isHidden (as.entries.drop c.index)
  rw [← hrest, List.head?_drop, h] at hhead
  exact hhead

theorem call_cases {k : Call} (h : t.cursor.expected = t.store.changes) :
    (∃ c r, t.call k = (.ok r, ⟨t.store, c⟩) ∧ r ≠ .removed ∧ c.expected = t.cursor.expected ∧
      ∀ l ∈ c.last, l ∈ t.cursor.last ∨
        ∃ e, t.store.entries[l]? = some e ∧ e.isHidden = false) ∨
    t.call k = (.error (.unmet .nothingVisited), t) ∨
    ∃ l ∈ t.cursor.last, t.call k = (.ok .removed,
      ⟨⟨t.store.entries.eraseIdx l, t.store.changes + 1⟩, ⟨t.store.changes + 1, l, none⟩⟩) := by
  cases k with
  | hasNext =>
    have hcall : t.call .hasNext = _ := State.call_of_ok (Edit.map_ok (hasNext_ok h))
    exact .inl ⟨_, _, hcall, nofun, rfl, fun l hl => .inl hl⟩
  | next =>
    refine .inl ?_
    cases he : t.store.entries[t.cursor.settle t.store]? with
    | some e =>
      have hcall : t.call .next = _ := State.call_of_ok (Edit.map_ok (next_some h he))
      refine ⟨_, _, hcall, nofun, rfl, fun l hl => .inr ?_⟩
      cases hl
      exact ⟨e, he, shown_settle he⟩
    | none =>
      have hcall : t.call .next = _ := State.call_of_ok (Edit.map_ok (next_none h he))
      exact ⟨_, _, hcall, nofun, rfl, fun l hl => .inl hl⟩
  | remove =>
    refine .inr ?_
    cases hlast : t.cursor.last with
    | none =>
      exact .inl (State.call_of_error (Edit.map_of_error (remove_error h hlast)))
    | some l => exact .inr ⟨l, rfl, State.call_of_ok (Edit.map_ok (remove_ok h hlast))⟩

theorem State.call_error {k : Call} {x : TreeError} (h : (t.call k).1 = .error x) :
    (t.call k).2 = t := by
  by_cases hstep : t.cursor.expected = t.store.changes
  · obtain ⟨c, r, hcall, -⟩ | hcall | ⟨l, -, hcall⟩ := call_cases (k := k) hstep
    · rw [hcall] at h
      cases h
    · rw [hcall]
    · rw [hcall] at h
      cases h
  · rw [call_late hstep]

end Effects

/-- Each visited entry comes with whether it still stands. -/
structure MarkedList where
  past : List (Entry × Bool)
  ahead : List Entry

namespace MarkedList

def start (l : List Entry) : MarkedList := ⟨[], l⟩

def whole (s : MarkedList) : List Entry := s.past.map (·.1) ++ s.ahead

def standing (s : MarkedList) : List Entry := (s.past.filter (·.2)).map (·.1) ++ s.ahead

def call : Call → MarkedList → Except TreeError Reply × MarkedList
  | .hasNext, s => (.ok (.truth !s.ahead.isEmpty), s)
  | .next, s =>
    match s.ahead with
    | [] => (.ok (.visited none), s)
    | e :: rest => (.ok (.visited (some e.toAttribute)), ⟨s.past ++ [(e, true)], rest⟩)
  | .remove, s =>
    match s.past.getLast? with
    | some (e, true) => (.ok .removed, ⟨s.past.dropLast ++ [(e, false)], s.ahead⟩)
    | _ => (.error (.unmet .nothingVisited), s)

variable {s : MarkedList} {past : List (Entry × Bool)}

theorem remove_standing (h : s.past = past ++ [(e, true)]) :
    s.call .remove = (.ok .removed, ⟨past ++ [(e, false)], s.ahead⟩) := by
  simp [call, h]

theorem remove_gone (h : ∀ e, s.past.getLast? ≠ some (e, true)) :
    s.call .remove = (.error (.unmet .nothingVisited), s) := by
  rw [call]
  split
  · next e he => exact absurd he (h e)
  · rfl

theorem standing_or_gone (s : MarkedList) : (∃ past e, s.past = past ++ [(e, true)]) ∨
    ∀ e, s.past.getLast? ≠ some (e, true) := by
  by_cases h : ∃ e, s.past.getLast? = some (e, true)
  · obtain ⟨e, he⟩ := h
    obtain ⟨past, hpast⟩ := List.getLast?_eq_some_iff.mp he
    exact .inl ⟨past, e, hpast⟩
  · exact .inr fun e he => h ⟨e, he⟩

end MarkedList

def seen (l : List Entry) : List Entry := l.filter (!·.isHidden)

def kept (past : List (Entry × Bool)) : List Entry := (past.filter (·.2)).map (·.1)

@[simp] theorem seen_append : seen (front ++ back) = seen front ++ seen back :=
  List.filter_append ..

theorem seen_eq_nil (h : ∀ e ∈ back, e.isHidden = true) : seen back = [] := by
  rw [seen, List.filter_eq_nil_iff]
  intro e he
  simp [h e he]

theorem seen_cons (h : e.isHidden = false) : seen (e :: back) = e :: seen back := by
  simp [seen, h]

theorem split_hidden (back : List Entry) : ∃ skipped rest, back = skipped ++ rest ∧
    (∀ e ∈ skipped, e.isHidden = true) ∧ ∀ e ∈ rest.head?, e.isHidden = false := by
  induction back with
  | nil => exact ⟨[], [], rfl, nofun, nofun⟩
  | cons d back ih =>
    cases hd : d.isHidden with
    | false =>
      refine ⟨[], d :: back, rfl, nofun, fun e he => ?_⟩
      cases he
      exact hd
    | true =>
      obtain ⟨skipped, rest, rfl, hskipped, hrest⟩ := ih
      exact ⟨d :: skipped, rest, rfl, List.forall_mem_cons.mpr ⟨hd, hskipped⟩, hrest⟩

def VisitedUpTo (before : List Entry) (past : List (Entry × Bool)) : Option Nat → Prop
  | none => kept past = seen before ∧ ∀ e, past.getLast? ≠ some (e, true)
  | some i => ∃ front e middle rest, before = front ++ e :: middle ∧ i = front.length ∧
      e.isHidden = false ∧ (∀ d ∈ middle, d.isHidden = true) ∧
      past = rest ++ [(e, true)] ∧ kept rest = seen front

namespace VisitedUpTo

variable {past : List (Entry × Bool)} {last : Option Nat}

theorem kept_eq (h : VisitedUpTo before past last) : kept past = seen before := by
  cases last with
  | none => exact h.1
  | some i =>
    obtain ⟨front, e, middle, rest, rfl, rfl, he, hmiddle, rfl, hrest⟩ := h
    rw [seen_append, seen_cons he, seen_eq_nil hmiddle, ← hrest]
    simp [kept]

theorem skip (h : VisitedUpTo before past last) (hskipped : ∀ e ∈ middle, e.isHidden = true) :
    VisitedUpTo (before ++ middle) past last := by
  cases last with
  | none => exact ⟨by rw [seen_append, seen_eq_nil hskipped, List.append_nil, h.1], h.2⟩
  | some i =>
    obtain ⟨front, e, between, rest, rfl, rfl, he, hbetween, hpast, hrest⟩ := h
    refine ⟨front, e, between ++ middle, rest, by simp, rfl, he, fun d hd => ?_, hpast, hrest⟩
    rcases List.mem_append.mp hd with hd | hd
    · exact hbetween d hd
    · exact hskipped d hd

theorem visit (h : kept past = seen before) (he : e.isHidden = false) :
    VisitedUpTo (before ++ [e]) (past ++ [(e, true)]) (some before.length) :=
  ⟨before, e, [], past, rfl, rfl, he, nofun, rfl, h⟩

end VisitedUpTo

structure ReadsAs (t : State) (before back : List Entry) (s : MarkedList) : Prop where
  entries : t.store.entries = before ++ back
  current : t.cursor.expected = t.store.changes
  index : t.cursor.index = before.length
  ahead : s.ahead = seen back
  past : VisitedUpTo before s.past t.cursor.last

section Calls

variable {t : State} {s : MarkedList} {skipped rest : List Entry}

theorem settle_eq (he : as.entries = before ++ (skipped ++ rest)) (hi : c.index = before.length)
    (hskipped : ∀ e ∈ skipped, e.isHidden = true) (hrest : ∀ e ∈ rest.head?, e.isHidden = false) :
    c.settle as = (before ++ skipped).length := by
  have hstop : rest.takeWhile Entry.isHidden = [] := by
    cases rest with
    | nil => rfl
    | cons e rest => simp [hrest e rfl]
  rw [settle, hi, he, List.drop_left, List.takeWhile_append_of_pos hskipped, hstop,
    List.append_nil, List.length_append]

theorem ReadsAs.settled (h : ReadsAs t before back s) : ∃ before rest,
    ReadsAs ⟨t.store, { t.cursor with index := t.cursor.settle t.store }⟩ before rest s ∧
      ∀ e ∈ rest.head?, e.isHidden = false := by
  obtain ⟨skipped, rest, rfl, hskipped, hrest⟩ := split_hidden back
  refine ⟨before ++ skipped, rest, ⟨?_, h.current, ?_, ?_, h.past.skip hskipped⟩, hrest⟩
  · rw [h.entries, List.append_assoc]
  · exact settle_eq h.entries h.index hskipped hrest
  · rw [h.ahead, seen_append, seen_eq_nil hskipped]
    rfl

theorem ReadsAs.hasNext (h : ReadsAs t before back s) :
    ∃ c, Cursor.hasNext t = .ok (!s.ahead.isEmpty) ⟨t.store, c⟩ ∧
      ∃ before back, ReadsAs ⟨t.store, c⟩ before back s := by
  obtain ⟨before, rest, hat, hrest⟩ := h.settled
  have hsettle : t.cursor.settle t.store = before.length := hat.index
  have hentries : t.store.entries = before ++ rest := hat.entries
  have hanswer : decide (t.cursor.settle t.store < t.store.entries.length) =
      !s.ahead.isEmpty := by
    rw [hsettle, hentries, List.length_append, hat.ahead]
    cases rest with
    | nil => simp [seen]
    | cons e rest => simp [seen_cons (hrest e rfl)]
  refine ⟨_, ?_, before, rest, hat⟩
  rw [hasNext_ok h.current, hanswer]

theorem ReadsAs.next_nil (h : ReadsAs t before back s) (hs : s.ahead = []) :
    ∃ c, Cursor.next t = .ok none ⟨t.store, c⟩ ∧
      ∃ before back, ReadsAs ⟨t.store, c⟩ before back s := by
  obtain ⟨before, rest, hat, hrest⟩ := h.settled
  have hahead := hat.ahead
  cases rest with
  | cons e rest =>
    rw [hs, seen_cons (hrest e rfl)] at hahead
    cases hahead
  | nil =>
    have hend : t.store.entries[t.cursor.settle t.store]? = none := by
      rw [show t.cursor.settle t.store = before.length from hat.index,
        show t.store.entries = before ++ [] from hat.entries]
      simp
    exact ⟨_, next_none h.current hend, before, [], hat⟩

theorem ReadsAs.next_cons {ahead : List Entry} (h : ReadsAs t before back s)
    (hs : s.ahead = e :: ahead) :
    ∃ c, Cursor.next t = .ok (some e.toAttribute) ⟨t.store, c⟩ ∧
      ∃ before back, ReadsAs ⟨t.store, c⟩ before back ⟨s.past ++ [(e, true)], ahead⟩ := by
  obtain ⟨before, rest, hat, hrest⟩ := h.settled
  have hahead := hat.ahead
  have hsettle : t.cursor.settle t.store = before.length := hat.index
  cases rest with
  | nil =>
    rw [hs] at hahead
    cases hahead
  | cons d rest =>
    have hd := hrest d rfl
    rw [hs, seen_cons hd] at hahead
    cases hahead
    have hentries : t.store.entries = before ++ e :: rest := hat.entries
    have hentry : t.store.entries[t.cursor.settle t.store]? = some e := by simp [hsettle, hentries]
    refine ⟨_, next_some h.current hentry, before ++ [e], rest,
      ⟨by simp [hentries], h.current, by simp [hsettle], rfl, ?_⟩⟩
    rw [hsettle]
    exact .visit hat.past.kept_eq hd

theorem ReadsAs.remove_standing {past : List (Entry × Bool)} (h : ReadsAs t before back s)
    (hs : s.past = past ++ [(e, true)]) :
    ∃ as c, Cursor.remove t = .ok () ⟨as, c⟩ ∧ as.hidden = t.store.hidden ∧
      ∃ before back, ReadsAs ⟨as, c⟩ before back ⟨past ++ [(e, false)], s.ahead⟩ := by
  have hstands := h.past
  cases hlast : t.cursor.last with
  | none =>
    rw [hlast] at hstands
    exact absurd (by simp [hs]) (hstands.2 e)
  | some i =>
    rw [hlast] at hstands
    obtain ⟨front, d, middle, rest, rfl, rfl, hd, hmiddle, hpast, hrest⟩ := hstands
    rw [hs] at hpast
    obtain ⟨rfl, heq⟩ := List.append_inj' hpast rfl
    cases heq
    have hentries : t.store.entries = front ++ e :: (middle ++ back) := by simp [h.entries]
    have herase : t.store.entries.eraseIdx front.length = front ++ (middle ++ back) := by
      simp [hentries, List.eraseIdx_append_of_length_le]
    refine ⟨_, _, remove_ok h.current hlast, ?_, front, middle ++ back, ⟨herase, rfl, rfl, ?_, ?_⟩⟩
    · rw [Attributes.hidden, Attributes.hidden, herase, hentries]
      simp [hd]
    · rw [h.ahead, seen_append, seen_eq_nil hmiddle]
      rfl
    · refine ⟨?_, by simp⟩
      rw [← hrest]
      simp [kept]

theorem ReadsAs.remove_gone (h : ReadsAs t before back s)
    (hs : ∀ e, s.past.getLast? ≠ some (e, true)) :
    Cursor.remove t = .error (.unmet .nothingVisited) t := by
  have hstands := h.past
  cases hlast : t.cursor.last with
  | some i =>
    rw [hlast] at hstands
    obtain ⟨front, d, middle, rest, _, _, _, _, hpast, _⟩ := hstands
    exact absurd (by simp [hpast]) (hs d)
  | none => exact remove_error h.current hlast

theorem ReadsAs.step (h : ReadsAs t before back s) (c : Call) :
    (t.call c).1 = (s.call c).1 ∧ (t.call c).2.store.hidden = t.store.hidden ∧
      ∃ before back, ReadsAs (t.call c).2 before back (s.call c).2 := by
  cases c with
  | hasNext =>
    obtain ⟨c, hc, hat⟩ := h.hasNext
    have hcall : t.call .hasNext = _ := State.call_of_ok (Edit.map_ok hc)
    rw [hcall]
    exact ⟨rfl, rfl, hat⟩
  | next =>
    cases hs : s.ahead with
    | nil =>
      obtain ⟨c, hc, hat⟩ := h.next_nil hs
      have hcall : t.call .next = _ := State.call_of_ok (Edit.map_ok hc)
      simp only [hcall, MarkedList.call, hs]
      exact ⟨trivial, trivial, hat⟩
    | cons e ahead =>
      obtain ⟨c, hc, hat⟩ := h.next_cons hs
      have hcall : t.call .next = _ := State.call_of_ok (Edit.map_ok hc)
      simp only [hcall, MarkedList.call, hs]
      exact ⟨trivial, trivial, hat⟩
  | remove =>
    rcases s.standing_or_gone with ⟨past, e, hpast⟩ | hgone
    · obtain ⟨as, c, hc, hhidden, hat⟩ := h.remove_standing hpast
      have hcall : t.call .remove = _ := State.call_of_ok (Edit.map_ok hc)
      rw [MarkedList.remove_standing hpast, hcall]
      exact ⟨rfl, hhidden, hat⟩
    · have hcall : t.call .remove = _ :=
        State.call_of_error (Edit.map_of_error (h.remove_gone hgone))
      rw [MarkedList.remove_gone hgone, hcall]
      exact ⟨rfl, rfl, before, back, h⟩

end Calls

section Runs

variable {t : State} {s : MarkedList} {calls : List Call}

def browse (as : Attributes) (calls : List Call) : List (Except TreeError Reply) × State :=
  replies State.call calls (.start as)

def emptying (n : Nat) : List Call := (List.replicate n [.next, .remove]).flatten

def read (l : List Entry) (calls : List Call) : List (Except TreeError Reply) × MarkedList :=
  replies MarkedList.call calls (.start l)

theorem at_start (as : Attributes) : ReadsAs (.start as) [] as.entries (.start as.visible) :=
  ⟨rfl, rfl, rfl, rfl, rfl, by simp [MarkedList.start]⟩

theorem ReadsAs.run (h : ReadsAs t before back s) (calls : List Call) :
    (replies State.call calls t).1 = (replies MarkedList.call calls s).1 ∧
      (replies State.call calls t).2.store.hidden = t.store.hidden ∧
      ∃ before back, ReadsAs (replies State.call calls t).2 before back
        (replies MarkedList.call calls s).2 := by
  induction calls generalizing t s before back with
  | nil => exact ⟨rfl, rfl, before, back, h⟩
  | cons c calls ih =>
    obtain ⟨hreply, hhidden, before, back, hstep⟩ := h.step c
    obtain ⟨hreplies, hrest, hat⟩ := ih hstep
    exact ⟨by simp only [replies, hreply, hreplies], hrest.trans hhidden, hat⟩

theorem ReadsAs.visible (h : ReadsAs t before back s) : t.store.visible = s.standing := by
  rw [MarkedList.standing, h.ahead, Attributes.visible, h.entries]
  exact seen_append.trans (congrArg (· ++ seen back) h.past.kept_eq.symm)

namespace MarkedList

theorem whole_call (c : Call) : (s.call c).2.whole = s.whole := by
  cases c with
  | hasNext => rfl
  | next =>
    cases hs : s.ahead with
    | nil => simp only [call, hs]
    | cons e ahead => simp [call, hs, whole]
  | remove =>
    rcases s.standing_or_gone with ⟨past, e, hpast⟩ | hgone
    · simp [remove_standing hpast, whole, hpast]
    · rw [remove_gone hgone]

theorem whole_run : (replies call calls s).2.whole = s.whole := by
  induction calls generalizing s with
  | nil => rfl
  | cons c calls ih => exact ih.trans (whole_call c)

theorem not_concurrent (c : Call) : (s.call c).1 ≠ .error .concurrentChange := by
  cases c with
  | hasNext => nofun
  | next => cases hs : s.ahead <;> simp [call, hs]
  | remove =>
    rcases s.standing_or_gone with ⟨past, e, hpast⟩ | hgone
    · simp [remove_standing hpast]
    · simp [remove_gone hgone]

theorem never_concurrent : .error .concurrentChange ∉ (replies call calls s).1 := by
  induction calls generalizing s with
  | nil => nofun
  | cons c calls ih =>
    intro h
    rcases List.mem_cons.mp h with h | h
    · exact not_concurrent c h.symm
    · exact ih h

theorem call_next : (s.call .next).1 = .ok (.visited (s.ahead.map Entry.toAttribute).head?) ∧
    (s.call .next).2.ahead = s.ahead.tail := by
  cases hs : s.ahead <;> simp [call, hs]

theorem call_other {c : Call} (h : c ≠ .next) :
    visited? (s.call c).1 = none ∧ (s.call c).2.ahead = s.ahead := by
  cases c with
  | hasNext => exact ⟨rfl, rfl⟩
  | next => exact absurd rfl h
  | remove =>
    rcases s.standing_or_gone with ⟨past, e, hpast⟩ | hgone
    · rw [remove_standing hpast]
      exact ⟨rfl, rfl⟩
    · rw [remove_gone hgone]
      exact ⟨rfl, rfl⟩

theorem visits : (replies call calls s).1.filterMap visited? =
    (List.range (calls.count .next)).map ((s.ahead.map Entry.toAttribute)[·]?) := by
  induction calls generalizing s with
  | nil => rfl
  | cons c calls ih =>
    have hreplies : (replies call (c :: calls) s).1 =
        (s.call c).1 :: (replies call calls (s.call c).2).1 := rfl
    by_cases hc : c = .next
    · subst hc
      obtain ⟨hvisit, hahead⟩ := call_next (s := s)
      rw [hreplies, List.filterMap_cons_some (congrArg visited? hvisit), ih, hahead,
        List.count_cons_self, List.range_succ_eq_map, List.map_cons, List.map_map, List.map_tail]
      congr 1
      · cases s.ahead <;> rfl
      · refine List.map_congr_left fun i _ => ?_
        exact List.getElem?_tail
    · obtain ⟨hvisit, hahead⟩ := call_other (s := s) hc
      rw [hreplies, List.filterMap_cons_none hvisit, ih, hahead, List.count_cons_of_ne hc]

end MarkedList

theorem emptied {n : Nat} (h : s.ahead.length = n) :
    (replies MarkedList.call (emptying n) s).2 = ⟨s.past ++ s.ahead.map (·, false), []⟩ := by
  induction n generalizing s with
  | zero =>
    cases s with
    | mk past ahead =>
      cases List.eq_nil_of_length_eq_zero h
      simp [emptying, replies]
  | succ n ih =>
    cases s with
    | mk past ahead =>
      obtain ⟨e, rest, rfl⟩ := List.exists_cons_of_length_eq_add_one h
      have hrest := ih (s := ⟨past ++ [(e, false)], rest⟩) (Nat.succ.inj h)
      have hpair : (replies MarkedList.call (emptying (n + 1)) ⟨past, e :: rest⟩).2 =
          (replies MarkedList.call (emptying n) ⟨past ++ [(e, false)], rest⟩).2 := by
        simp [emptying, List.replicate_succ, replies, MarkedList.call]
      rw [hpair, hrest]
      simp

theorem clear_by_cursor (as : Attributes) :
    (browse as (emptying as.size)).2.store.entries = as.clear.entries ∧
      ((browse as (emptying as.size)).2.call .next).1 = .ok (.visited none) := by
  obtain ⟨_, hhidden, _, _, hat⟩ := (at_start as).run (emptying as.size)
  have hend := emptied (s := .start as.visible) (n := as.size) rfl
  have hvisible := hat.visible
  have hnext := (hat.step .next).1
  rw [hend] at hvisible hnext
  refine ⟨?_, hnext⟩
  have hnone : (browse as (emptying as.size)).2.store.visible = [] := by
    rw [browse, hvisible]
    simp [MarkedList.standing, MarkedList.start]
  have hall : ∀ e ∈ (browse as (emptying as.size)).2.store.entries, e.isHidden = true := by
    simpa [Attributes.visible] using hnone
  rw [← List.filter_eq_self.mpr hall]
  exact hhidden

theorem browse_reads_in_order (as : Attributes) (calls : List Call) :
    (browse as calls).1 = (read as.visible calls).1 ∧
      .error .concurrentChange ∉ (browse as calls).1 ∧
      (browse as calls).1.filterMap visited? =
        (List.range (calls.count .next)).map (as.toList[·]?) ∧
      (∃ a, ((browse as calls).2.call .next).1 = .ok (.visited a) ∧
        ((browse as calls).2.call .hasNext).1 = .ok (.truth a.isSome)) ∧
      (∀ c x, ((browse as calls).2.call c).1 = .error x →
        ((browse as calls).2.call c).2 = (browse as calls).2) ∧
      (read as.visible calls).2.whole = as.visible ∧
      (browse as calls).2.store.visible = (read as.visible calls).2.standing ∧
      (browse as calls).2.store.hidden = as.hidden := by
  obtain ⟨hreplies, hhidden, _, _, hat⟩ := (at_start as).run calls
  have hnext := (hat.step .next).1.trans MarkedList.call_next.1
  have hasNext := (hat.step .hasNext).1
  refine ⟨hreplies, hreplies ▸ MarkedList.never_concurrent, hreplies ▸ MarkedList.visits,
    ⟨_, hnext, ?_⟩,
    fun _ _ => State.call_error, MarkedList.whole_run, hat.visible, hhidden⟩
  refine hasNext.trans (congrArg (Except.ok ∘ Reply.truth) ?_)
  cases (replies MarkedList.call calls (.start as.visible)).2.ahead <;> rfl

example : (browse ⟨[⟨Attributes.baseUriKey, .text none⟩, ⟨"a", .text none⟩,
      ⟨Attributes.userDataKey, .userData .empty⟩, ⟨"b", .text (some "1")⟩], 0⟩
    [.remove, .next, .remove, .remove, .hasNext, .next, .next]).1 =
      [.error (.unmet .nothingVisited), .ok (.visited (some ⟨"a", none⟩)), .ok .removed,
        .error (.unmet .nothingVisited), .ok (.truth true), .ok (.visited (some ⟨"b", some "1"⟩)),
        .ok (.visited none)] := by
  decide

end Runs

end MarkupForest.Cursor
