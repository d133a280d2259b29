import MarkupForest.Forest.Walk
import MarkupForest.Proofs.Forest.WellFormed

namespace MarkupForest

inductive Fate where
  | keep
  | remove
  | replace (replacement : NodeId)
  deriving DecidableEq, Repr

def Fate.heir (id : NodeId) : Fate → Option NodeId
  | .keep => some id
  | .remove => none
  | .replace r => some r

/-- The events of a visit of some siblings. What stands where a node was entered is left, too. -/
inductive Visits (kids : NodeId → List NodeId) (plan : NodeId → Fate) :
    List NodeId → Nat → List Event → Prop
  | nil {depth : Nat} : Visits kids plan [] depth []
  | stays {n s : NodeId} {row : List NodeId} {depth : Nat} {below after : List Event} :
      (plan n).heir n = some s → Visits kids plan (kids s) (depth + 1) below →
        Visits kids plan row depth after →
        Visits kids plan (n :: row) depth (.enter n depth :: (below ++ .leave s depth :: after))
  | gone {n : NodeId} {row : List NodeId} {depth : Nat} {after : List Event} :
      (plan n).heir n = none → Visits kids plan row depth after →
        Visits kids plan (n :: row) depth (.enter n depth :: after)

def Event.entered? : Event → Option NodeId
  | .enter id _ => some id
  | .leave _ _ => none

def entered (es : List Event) : List NodeId := es.filterMap Event.entered?

inductive VisitPath (kids : NodeId → List NodeId) (plan : NodeId → Fate) (top : NodeId) :
    NodeId → List NodeId → Prop
  | top : VisitPath kids plan top top []
  | step {m s c : NodeId} {way : List NodeId} :
      VisitPath kids plan top m way → (plan m).heir m = some s → c ∈ kids s →
        VisitPath kids plan top c (m :: way)

/-- Replacements are roots, each used once, and none is above the visited tree. -/
structure Admissible (f : Forest) (kids : NodeId → List NodeId) (plan : NodeId → Fate)
    (top : NodeId) : Prop where
  lt : top < f.size
  sublist : ∀ s, (kids s).Sublist (f.childIds s)
  replaces : ∀ n < f.size, ∀ r, plan n = .replace r →
    r < f.size ∧ f.parent? r = none ∧ ¬ f.Above r top
  distinct : ∀ n < f.size, ∀ m < f.size, ∀ r, plan n = .replace r → plan m = .replace r → n = m

section

variable {kids : NodeId → List NodeId} {plan : NodeId → Fate} {top c m n s x : NodeId}
  {row way u w : List NodeId} {es es' : List Event} {depth : Nat}

@[simp] theorem entered_nil : entered [] = [] := rfl

@[simp] theorem entered_enter : entered (.enter n depth :: es) = n :: entered es := rfl

@[simp] theorem entered_leave : entered (.leave n depth :: es) = entered es := rfl

@[simp] theorem entered_append : entered (es ++ es') = entered es ++ entered es' :=
  List.filterMap_append

theorem Fate.heir_eq_some (h : (plan n).heir n = some s) :
    plan n = .keep ∧ s = n ∨ plan n = .replace s := by
  cases hp : plan n with
  | keep => exact .inl ⟨rfl, (by simpa [heir, hp] using h.symm)⟩
  | remove => simp [heir, hp] at h
  | replace r => exact .inr (by simpa [heir, hp] using h)

theorem Fate.heir_eq_none (h : (plan n).heir n = none) : plan n = .remove := by
  cases hp : plan n with
  | keep => simp [heir, hp] at h
  | remove => rfl
  | replace r => simp [heir, hp] at h

theorem Visits.unique (h : Visits kids plan row depth es) (h' : Visits kids plan row depth es') :
    es = es' := by
  induction h generalizing es' with
  | nil => cases h' with | nil => rfl
  | stays hs _ _ ihb iha =>
    cases h' with
    | stays hs' hb ha =>
      cases hs.symm.trans hs'
      rw [ihb hb, iha ha]
    | gone hs' => cases hs.symm.trans hs'
  | gone hs _ iha =>
    cases h' with
    | stays hs' => cases hs.symm.trans hs'
    | gone _ ha => rw [iha ha]

theorem Visits.row_entered (h : Visits kids plan row depth es) : ∀ c ∈ row, c ∈ entered es := by
  induction h with
  | nil => simp
  | stays _ _ _ _ iha =>
    refine List.forall_mem_cons.mpr ⟨by simp, fun c hc => ?_⟩
    simp [iha c hc]
  | gone _ _ iha =>
    refine List.forall_mem_cons.mpr ⟨by simp, fun c hc => ?_⟩
    simp [iha c hc]

theorem Visits.closed (h : Visits kids plan row depth es) (hn : n ∈ entered es)
    (hs : (plan n).heir n = some s) (hc : c ∈ kids s) : c ∈ entered es := by
  induction h with
  | nil => simp at hn
  | stays hk hb _ ihb iha =>
    simp only [entered_enter, entered_append, entered_leave, List.mem_cons, List.mem_append] at hn ⊢
    rcases hn with rfl | hn | hn
    · cases hs.symm.trans hk
      exact .inr (.inl (hb.row_entered c hc))
    · exact .inr (.inl (ihb hn))
    · exact .inr (.inr (iha hn))
  | gone hk _ iha =>
    simp only [entered_enter, List.mem_cons] at hn ⊢
    rcases hn with rfl | hn
    · cases hs.symm.trans hk
    · exact .inr (iha hn)

theorem VisitPath.entered (hw : VisitPath kids plan top c way)
    (h : Visits kids plan [top] depth es) :
    c ∈ entered es := by
  induction hw with
  | top => exact h.row_entered top (List.mem_singleton_self top)
  | step _ hs hc ih => exact h.closed ih hs hc

theorem VisitPath.of_suffix (hw : VisitPath kids plan top c way) (h : x :: u <:+ c :: way) :
    VisitPath kids plan top x u := by
  induction hw with
  | top =>
    obtain ⟨rfl, rfl⟩ : x = top ∧ u = [] := by simpa [List.suffix_cons_iff] using h
    exact .top
  | step hm hs hc ih =>
    rcases List.suffix_cons_iff.mp h with h | h
    · cases h
      exact hm.step hs hc
    · exact ih h

theorem Visits.way_of_entered (h : Visits kids plan row depth es)
    (hrow : ∀ c ∈ row, VisitPath kids plan top c way) (hx : x ∈ entered es) :
    ∃ c ∈ row, ∃ u, VisitPath kids plan top x u ∧ c :: way <:+ x :: u := by
  induction h generalizing way with
  | nil => simp at hx
  | @stays n s row d below after hs _ _ ihb iha =>
    obtain ⟨hn, hrest⟩ := List.forall_mem_cons.mp hrow
    simp only [entered_enter, entered_append, entered_leave, List.mem_cons, List.mem_append] at hx
    rcases hx with rfl | hx | hx
    · exact ⟨x, List.mem_cons_self, way, hn, List.suffix_rfl⟩
    · obtain ⟨c, _, u, hu, hsuf⟩ := ihb (fun c hc => hn.step hs hc) hx
      exact ⟨n, List.mem_cons_self, u, hu, (List.suffix_cons c _).trans hsuf⟩
    · obtain ⟨c, hc, u, hu, hsuf⟩ := iha hrest hx
      exact ⟨c, List.mem_cons_of_mem n hc, u, hu, hsuf⟩
  | @gone n row d after _ _ iha =>
    obtain ⟨hn, hrest⟩ := List.forall_mem_cons.mp hrow
    simp only [entered_enter, List.mem_cons] at hx
    rcases hx with rfl | hx
    · exact ⟨x, List.mem_cons_self, way, hn, List.suffix_rfl⟩
    · obtain ⟨c, hc, u, hu, hsuf⟩ := iha hrest hx
      exact ⟨c, List.mem_cons_of_mem n hc, u, hu, hsuf⟩

end

namespace Admissible

open Forest

variable {f : Forest} {kids : NodeId → List NodeId} {plan : NodeId → Fate}
  {top c m n p s x : NodeId} {row way u w : List NodeId} {es : List Event} {depth : Nat}

variable (h : Admissible f kids plan top) (hf : f.WellFormed)
include h hf

theorem parent?_called (hc : c ∈ kids s) : f.parent? c = some s :=
  hf.mem_iff.mp ((h.sublist s).subset hc)

theorem way_lt (hw : VisitPath kids plan top c way) : c < f.size := by
  cases hw with
  | top => exact h.lt
  | step _ _ hc => exact lt_of_parent? (h.parent?_called hf hc)

theorem heir_lt (hw : VisitPath kids plan top n way) (hs : (plan n).heir n = some s) :
    s < f.size := by
  rcases Fate.heir_eq_some hs with ⟨_, rfl⟩ | hr
  · exact h.way_lt hf hw
  · exact (h.replaces n (h.way_lt hf hw) s hr).1

omit h hf in
theorem heir_grounded (ho : ∃ o, (o = top ∨ ∃ m ∈ way, plan m = .replace o) ∧ f.Above o n)
    (hs : (plan n).heir n = some s) :
    ∃ o, (o = top ∨ ∃ m ∈ n :: way, plan m = .replace o) ∧ f.Above o s := by
  rcases Fate.heir_eq_some hs with ⟨_, rfl⟩ | hr
  · obtain ⟨o, ho, hon⟩ := ho
    exact ⟨o, ho.imp_right fun ⟨m, hm, hr⟩ => ⟨m, List.mem_cons_of_mem s hm, hr⟩, hon⟩
  · exact ⟨s, .inr ⟨n, List.mem_cons_self, hr⟩, .refl s⟩

theorem grounded (hw : VisitPath kids plan top c way) :
    ∃ o, (o = top ∨ ∃ m ∈ way, plan m = .replace o) ∧ f.Above o c := by
  induction hw with
  | top => exact ⟨top, .inl rfl, .refl top⟩
  | @step m s c way _ hs hc ih =>
    obtain ⟨o, ho, hos⟩ := heir_grounded ih hs
    exact ⟨o, ho, hos.trans ((Above.refl s).of_parent (h.parent?_called hf hc))⟩

theorem not_above_top (hw : VisitPath kids plan top m way) (hs : (plan m).heir m = some s)
    (hp : f.parent? top = some p) : ¬ f.Above s p := by
  intro hsp
  obtain ⟨o, ho, hos⟩ := heir_grounded (h.grounded hf hw) hs
  rcases ho with rfl | ⟨n, hn, hr⟩
  · exact hf.acyclic.not_above_parent hp (hos.trans hsp)
  · obtain ⟨u, v, he⟩ := List.append_of_mem hn
    have hnw : VisitPath kids plan top n v := hw.of_suffix ⟨u, he.symm⟩
    exact (h.replaces n (h.way_lt hf hnw) o hr).2.2 ((hos.trans hsp).of_parent hp)

theorem not_entered_above_top (hw : VisitPath kids plan top x way) (hp : f.parent? top = some p) :
    ¬ f.Above x p := by
  cases hw with
  | top => exact hf.acyclic.not_above_parent hp
  | step hm hs hc => exact fun hx => h.not_above_top hf hm hs hp (hx.up (h.parent?_called hf hc))

theorem ne_top (hw : VisitPath kids plan top c (m :: way)) : c ≠ top := by
  rintro rfl
  cases hw with
  | step hm hs hc => exact h.not_above_top hf hm hs (h.parent?_called hf hc) (.refl _)

theorem not_replacement (hw : VisitPath kids plan top c way) (hn : n < f.size) :
    plan n ≠ .replace c := by
  intro hr
  obtain ⟨_, hroot, hab⟩ := h.replaces n hn c hr
  cases hw with
  | top => exact hab (.refl _)
  | step _ _ hc =>
    rw [h.parent?_called hf hc] at hroot
    cases hroot

theorem heir_inj (hn : VisitPath kids plan top n w) (hm : VisitPath kids plan top m way)
    (hns : (plan n).heir n = some s) (hms : (plan m).heir m = some s) : n = m := by
  have hnlt := h.way_lt hf hn
  have hmlt := h.way_lt hf hm
  rcases Fate.heir_eq_some hns with ⟨_, rfl⟩ | hr
  · rcases Fate.heir_eq_some hms with ⟨_, rfl⟩ | hr'
    · rfl
    · exact absurd hr' (h.not_replacement hf hn hmlt)
  · rcases Fate.heir_eq_some hms with ⟨_, rfl⟩ | hr'
    · exact absurd hr (h.not_replacement hf hm hnlt)
    · exact h.distinct n hnlt m hmlt s hr hr'

theorem ne_root {root : NodeId} (hroot : (plan top).heir top = some root)
    (hw : VisitPath kids plan top c (m :: way)) : c ≠ root := by
  rintro rfl
  rcases Fate.heir_eq_some hroot with ⟨_, rfl⟩ | hr
  · exact h.ne_top hf hw rfl
  · exact h.not_replacement hf hw h.lt hr

theorem heir_ne_root {root : NodeId} (hroot : (plan top).heir top = some root)
    (hw : VisitPath kids plan top c (m :: way)) (hs : (plan c).heir c = some s) : s ≠ root := by
  rintro rfl
  exact h.ne_top hf hw (h.heir_inj hf hw .top hs hroot)

theorem way_unique (hw : VisitPath kids plan top c w)
    (hw' : VisitPath kids plan top c way) : w = way := by
  induction hw generalizing way with
  | top =>
    cases way with
    | nil => rfl
    | cons => exact absurd rfl (h.ne_top hf hw')
  | step hm hs hc ih =>
    cases hw' with
    | top => exact absurd rfl (h.ne_top hf (hm.step hs hc))
    | step hm' hs' hc' =>
      cases (h.parent?_called hf hc).symm.trans (h.parent?_called hf hc')
      cases h.heir_inj hf hm hm' hs hs'
      rw [ih hm']

theorem nodup_way (hw : VisitPath kids plan top c way) : (c :: way).Nodup := by
  induction hw with
  | top => exact List.nodup_singleton top
  | @step m s c way hm hs hc ih =>
    refine List.nodup_cons.mpr ⟨fun hmem => ?_, ih⟩
    -- a node on its own way would have a shorter way as well
    obtain ⟨u, v, he⟩ := List.append_of_mem hmem
    have hv : VisitPath kids plan top c v := hm.of_suffix ⟨u, he.symm⟩
    have hlen := congrArg List.length he
    rw [← h.way_unique hf (hm.step hs hc) hv] at hlen
    simp at hlen
    omega

theorem length_way (hw : VisitPath kids plan top c way) : way.length < f.size := by
  have hlt : ∀ x ∈ c :: way, x < f.size := fun x hx => by
    obtain ⟨u, v, he⟩ := List.append_of_mem hx
    exact h.way_lt hf (hw.of_suffix ⟨u, he.symm⟩)
  exact length_le_of_nodup_of_lt (h.nodup_way hf hw) hlt

theorem exists_visits_row {k : Nat} (hm : VisitPath kids plan top m way)
    (hs : (plan m).heir m = some s)
    (hk : f.size ≤ way.length + 1 + k) (hrow : ∀ c ∈ row, c ∈ kids s) :
    ∃ es, Visits kids plan row depth es := by
  induction k generalizing m s way row depth with
  | zero =>
    cases row with
    | nil => exact ⟨[], .nil⟩
    | cons c rest =>
      have hlen := h.length_way hf (hm.step hs (hrow c List.mem_cons_self))
      rw [List.length_cons] at hlen
      omega
  | succ k ihk =>
    induction row with
    | nil => exact ⟨[], .nil⟩
    | cons c rest ihr =>
      obtain ⟨hc, hrest⟩ := List.forall_mem_cons.mp hrow
      obtain ⟨after, ha⟩ := ihr hrest
      cases hh : (plan c).heir c with
      | none => exact ⟨_, .gone hh ha⟩
      | some t =>
        have hlen : f.size ≤ (m :: way).length + 1 + k := by
          rw [List.length_cons]
          omega
        obtain ⟨below, hb⟩ := ihk (hm.step hs hc) hh hlen fun x hx => hx
        exact ⟨_, .stays hh hb ha⟩

theorem exists_visits (depth : Nat) : ∃ es, Visits kids plan [top] depth es := by
  cases hh : (plan top).heir top with
  | none => exact ⟨_, .gone hh .nil⟩
  | some s =>
    obtain ⟨below, hb⟩ := h.exists_visits_row hf .top hh (Nat.le_add_left f.size 1) fun x hx => hx
    exact ⟨_, .stays hh hb .nil⟩

theorem eq_of_below {a b : NodeId} {v : List NodeId} (ha : a :: way <:+ x :: u)
    (hb : b :: way <:+ x :: v) (hu : VisitPath kids plan top x u)
      (hv : VisitPath kids plan top x v) :
    a = b := by
  rw [h.way_unique hf hv hu] at hb
  have he := (List.suffix_of_suffix_length_le ha hb (by simp)).eq_of_length (by simp)
  exact (List.cons.inj he).1

theorem not_entered_after (hv : Visits kids plan row depth es)
    (hrow : ∀ c ∈ row, VisitPath kids plan top c way) (hn : n ∉ row)
      (hu : VisitPath kids plan top x u)
    (hsuf : n :: way <:+ x :: u) : x ∉ entered es := by
  intro hx
  obtain ⟨c, hc, v, hv, hsuf'⟩ := hv.way_of_entered hrow hx
  exact hn (h.eq_of_below hf hsuf hsuf' hu hv ▸ hc)

theorem nodup_entered (hv : Visits kids plan row depth es)
    (hrow : ∀ c ∈ row, VisitPath kids plan top c way) (hn : row.Nodup) : (entered es).Nodup := by
  induction hv generalizing way with
  | nil => exact List.nodup_nil
  | @stays n s row d below after hs hb ha ihb iha =>
    obtain ⟨hnw, hrest⟩ := List.forall_mem_cons.mp hrow
    obtain ⟨hnot, hnd⟩ := List.nodup_cons.mp hn
    have hkids : ∀ c ∈ kids s, VisitPath kids plan top c (n :: way) := fun c hc => hnw.step hs hc
    have hself : n ∉ entered below := fun hx => by
      obtain ⟨c, _, u, hu, hsuf⟩ := hb.way_of_entered hkids hx
      rw [h.way_unique hf hu hnw] at hsuf
      exact Nat.not_succ_le_self _ hsuf.length_le
    have hafter : ∀ {x u}, VisitPath kids plan top x u → n :: way <:+ x :: u → x ∉ entered after :=
      fun hu hsuf => h.not_entered_after hf ha hrest hnot hu hsuf
    simp only [entered_enter, entered_append, entered_leave]
    refine List.nodup_cons.mpr ⟨?_, List.nodup_append.mpr ⟨?_, iha hrest hnd, ?_⟩⟩
    · rw [List.mem_append]
      exact not_or.mpr ⟨hself, hafter hnw List.suffix_rfl⟩
    · exact ihb hkids ((hf.nodup s).sublist (h.sublist s))
    · rintro x hx _ hx' rfl
      obtain ⟨c, _, u, hu, hsuf⟩ := hb.way_of_entered hkids hx
      exact hafter hu ((List.suffix_cons c _).trans hsuf) hx'
  | @gone n row d after _ ha iha =>
    obtain ⟨hnw, hrest⟩ := List.forall_mem_cons.mp hrow
    obtain ⟨hnot, hnd⟩ := List.nodup_cons.mp hn
    exact List.nodup_cons.mpr
      ⟨h.not_entered_after hf ha hrest hnot hnw List.suffix_rfl, iha hrest hnd⟩

end Admissible

end MarkupForest
