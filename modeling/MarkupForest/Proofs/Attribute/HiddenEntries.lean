import MarkupForest.Proofs.Text.Names

namespace MarkupForest

open Text

variable {k l key : String} {e : Entry} {es : List Entry} {as : Attributes} {p q : Entry → Bool}
  {g : Entry → Entry} {m : Attributes.Match} {seen : List String}

theorem isHiddenKey_iff : isHiddenKey key = true ↔
    key.toList.head? = some '/' ∧ 1 < key.toList.length := by
  unfold isHiddenKey
  split
  · next h => simp [h]
  · next h =>
    refine ⟨fun hf => (Bool.false_ne_true hf).elim, fun ⟨hhead, hlen⟩ => ?_⟩
    rcases hk : key.toList with _ | ⟨c, _ | ⟨d, rest⟩⟩
    · simp [hk] at hhead
    · simp [hk] at hlen
    · rw [hk] at hhead
      cases hhead
      exact absurd hk (h d rest)

theorem toLower_eq_slash {c : Char} : c.toLower = '/' ↔ c = '/' := by
  constructor
  · intro h
    by_contra hc
    by_cases hascii : c.toNat < 0x80
    · exact toLower_ne_mark (by decide) hascii hc h
    · rw [toLower_of_not_ascii hascii] at h
      exact hc h
  · rintro rfl
    decide

theorem isHiddenKey_congr (h : sameLetters k l = true) : isHiddenKey k = isHiddenKey l := by
  have hview : ∀ s : String, isHiddenKey s = true ↔
      (lowerAscii s).head? = some '/' ∧ 1 < (lowerAscii s).length := by
    intro s
    rw [isHiddenKey_iff, lowerAscii, List.length_map, List.head?_map]
    cases s.toList with
    | nil => simp
    | cons c rest => simp [toLower_eq_slash]
  rw [Bool.eq_iff_iff, hview, hview, sameLetters_iff.mp h]

theorem isHiddenKey_of_holds (h : m.holds k l = true) : isHiddenKey l = isHiddenKey k := by
  cases m with
  | exact => rw [eq_of_beq h]
  | anyCase => exact isHiddenKey_congr h

theorem isHiddenKey_lower (h : isHiddenKey key = false) : isHiddenKey (lower key) = false := by
  rw [Bool.eq_false_iff] at h ⊢
  intro hlow
  rw [isHiddenKey_iff, lower, String.toList_ofList] at hlow
  obtain ⟨hhead, hlen⟩ := hlow
  cases hk : key.toList with
  | nil => simp [hk, lowerAfter] at hhead
  | cons c s =>
    obtain ⟨d, piece, he, hpiece⟩ := lowerAfter_cons [] c s
    rw [hk, he] at hhead hlen
    have hd : d = '/' := Option.some.inj hhead
    have hslash : c = '/' := by
      by_contra hc
      have hmem := hpiece d List.mem_cons_self
      have hfixed := (mark_facts '/' (by decide)).2.2
      have hchar := lowerChar_ne_mark (d := '/') (by decide) hc
      rw [hd] at hmem
      rcases List.mem_append.mp (show '/' ∈ ['ς', 'σ', 'i', '\u0307'] ++ [lowerChar c] from hmem)
        with hm | hm
      · exact hfixed hm
      · exact hchar (List.mem_singleton.mp hm).symm
    subst hslash
    refine h (isHiddenKey_iff.mpr ⟨by rw [hk]; rfl, ?_⟩)
    rw [hk]
    cases s with
    | nil =>
      -- a slash alone stays one character
      rw [← he] at hlen
      exact absurd hlen (by decide)
    | cons d' s => simp

namespace Attributes

theorem changeFirst_congr {g' : Entry → Entry} (h : ∀ e, p e = true → g e = g' e) :
    changeFirst p g es = changeFirst p g' es := by
  induction es with
  | nil => rfl
  | cons e es ih =>
    cases hp : p e with
    | true => rw [changeFirst, changeFirst, if_pos hp, if_pos hp, h e hp]
    | false => simp [changeFirst, hp, ih]

theorem filter_changeFirst_of_pos (h : ∀ e, p e = true → q e = true ∧ q (g e) = true) :
    (changeFirst p g es).filter q = changeFirst p g (es.filter q) := by
  induction es with
  | nil => rfl
  | cons e es ih =>
    cases hp : p e with
    | true => simp [changeFirst, hp, h e hp]
    | false => cases hq : q e <;> simp [changeFirst, hp, hq, ih]

theorem filter_changeFirst_of_neg (h : ∀ e, p e = true → q e = false ∧ q (g e) = false) :
    (changeFirst p g es).filter q = es.filter q := by
  induction es with
  | nil => rfl
  | cons e es ih =>
    cases hp : p e with
    | true => simp [changeFirst, hp, h e hp]
    | false => simp [changeFirst, hp, List.filter_cons, ih]

theorem filter_eraseP_of_pos (h : ∀ e, p e = true → q e = true) :
    (es.eraseP p).filter q = (es.filter q).eraseP p := by
  have hboth : (fun e => p e && q e) = p := by
    funext e
    cases hp : p e with
    | true => exact h e hp
    | false => rfl
  rw [List.eraseP_filter, hboth]

theorem filter_eraseP_of_neg (h : ∀ e, p e = true → q e = false) :
    (es.eraseP p).filter q = es.filter q := by
  induction es with
  | nil => rfl
  | cons e es ih =>
    cases hp : p e with
    | true => simp [hp, h e hp]
    | false => simp [hp, List.filter_cons, ih]

theorem find?_filter_of_pos (h : ∀ e, p e = true → q e = true) :
    (es.filter q).find? p = es.find? p := by
  rw [List.find?_filter]
  congr 1
  funext e
  cases hp : p e with
  | true => simp [h e hp]
  | false => simp

theorem find?_changeFirst_self (h : ∀ e, p e = true → p (g e) = true) :
    (changeFirst p g es).find? p = (es.find? p).map g := by
  induction es with
  | nil => rfl
  | cons e es ih =>
    cases hp : p e with
    | true => simp [changeFirst, hp, h e hp]
    | false => simp [changeFirst, hp, ih]

theorem find?_changeFirst_other (h : ∀ e, p e = true → q e = false ∧ q (g e) = false) :
    (changeFirst p g es).find? q = es.find? q := by
  induction es with
  | nil => rfl
  | cons e es ih =>
    cases hp : p e with
    | true => simp [changeFirst, hp, h e hp]
    | false => simp [changeFirst, hp, List.find?_cons, ih]

theorem find?_eraseP_other (h : ∀ e, p e = true → q e = false) :
    (es.eraseP p).find? q = es.find? q := by
  induction es with
  | nil => rfl
  | cons e es ih =>
    cases hp : p e with
    | true => rw [List.eraseP_cons_of_pos hp, List.find?_cons_of_neg (by simp [h e hp])]
    | false =>
      rw [List.eraseP_cons_of_neg (by simp [hp]), List.find?_cons, List.find?_cons, ih]

theorem map_find?_changeFirst {α : Type} {w : Entry → α} (hq : ∀ e, q (g e) = q e)
    (hw : ∀ e, w (g e) = w e) : ((changeFirst p g es).find? q).map w = (es.find? q).map w := by
  induction es with
  | nil => rfl
  | cons e es ih =>
    rw [changeFirst]
    split
    · cases hqe : q e <;> simp [hq, hw, hqe]
    · cases hqe : q e <;> simp [hqe, ih]

theorem mem_changeFirst (h : e ∈ changeFirst p g es) :
    e ∈ es ∨ ∃ d ∈ es, p d = true ∧ e = g d := by
  induction es with
  | nil => cases h
  | cons d es ih =>
    rw [changeFirst] at h
    split at h
    · next hd =>
      rcases List.mem_cons.mp h with he | he
      · exact .inr ⟨d, List.mem_cons_self, hd, he⟩
      · exact .inl (List.mem_cons_of_mem d he)
    · rcases List.mem_cons.mp h with rfl | he
      · exact .inl List.mem_cons_self
      · rcases ih he with he | ⟨b, hb, hpb, heb⟩
        · exact .inl (List.mem_cons_of_mem d he)
        · exact .inr ⟨b, List.mem_cons_of_mem d hb, hpb, heb⟩

theorem keys_changeFirst (h : ∀ e, p e = true → (g e).key = e.key) :
    (changeFirst p g es).map Entry.key = es.map Entry.key := by
  induction es with
  | nil => rfl
  | cons e es ih =>
    cases hp : p e with
    | true => simp [changeFirst, hp, h e hp]
    | false => simp [changeFirst, hp, ih]

theorem filter_firstOfEach {r : String → Bool} (h : ∀ k l, m.holds k l = true → r l = r k) :
    (firstOfEach m seen es).filter (fun e => r e.key) =
      firstOfEach m (seen.filter r) (es.filter fun e => r e.key) := by
  induction es generalizing seen with
  | nil => rfl
  | cons e es ih =>
    cases hr : r e.key with
    | true =>
      have hany : (seen.filter r).any (m.holds e.key) = seen.any (m.holds e.key) := by
        rw [List.any_filter]
        congr 1
        funext k
        cases hk : m.holds e.key k with
        | true => simp [h _ _ hk, hr]
        | false => simp
      rw [List.filter_cons_of_pos (by exact hr), firstOfEach, firstOfEach, hany]
      split
      · exact ih
      · rw [List.filter_cons_of_pos (by exact hr), ih, List.filter_append]
        simp [hr]
    | false =>
      rw [List.filter_cons_of_neg (by simp [hr]), firstOfEach]
      split
      · exact ih
      · rw [List.filter_cons_of_neg (by simp [hr]), ih, List.filter_append]
        simp [hr]

def hidden (as : Attributes) : List Entry := as.entries.filter Entry.isHidden

def alone (as : Attributes) : Attributes := ⟨as.visible, 0⟩

theorem mem_visible : e ∈ as.visible ↔ e ∈ as.entries ∧ e.isHidden = false := by
  simp [visible]

theorem shown_of_mem_toList {a : Attribute} (h : a ∈ as.toList) : isHiddenKey a.key = false := by
  obtain ⟨e, he, rfl⟩ := List.mem_map.mp h
  exact (mem_visible.mp he).2

theorem visible_alone : as.alone.visible = as.visible :=
  List.filter_filter.trans (by simp [visible])

theorem alone_alone : as.alone.alone = as.alone := congrArg (Attributes.mk · 0) visible_alone

theorem isHidden_of_holds (h : m.holds key e.key = true) : e.isHidden = isHiddenKey key :=
  isHiddenKey_of_holds h

section Visible

variable {value : Option String} (hkey : isHiddenKey key = false)
include hkey

theorem seen_of_holds (h : m.holds key e.key = true) : (!e.isHidden) = true := by
  rw [isHidden_of_holds h, hkey]
  rfl

theorem has_alone : as.alone.has m key = as.has m key := by
  have hfind : as.alone.find? m key = as.find? m key :=
    find?_filter_of_pos fun _ he => seen_of_holds hkey he
  rw [has, has, hfind]

theorem visible_push {slot : Slot} : (as.push key slot).visible = as.visible ++ [⟨key, slot⟩] := by
  simp [push, visible, Entry.isHidden, hkey]

theorem hidden_push {slot : Slot} : (as.push key slot).hidden = as.hidden := by
  simp [push, hidden, Entry.isHidden, hkey]

theorem visible_set : (as.set m key value).visible = (as.alone.set m key value).entries := by
  rw [set, set, has_alone hkey]
  split
  · exact filter_changeFirst_of_pos fun _ he => ⟨seen_of_holds hkey he, by
      simp [Entry.isHidden, hkey]⟩
  · exact visible_push hkey

theorem hidden_set : (as.set m key value).hidden = as.hidden := by
  rw [set]
  split
  · exact filter_changeFirst_of_neg fun _ he => ⟨(isHidden_of_holds he).trans hkey, hkey⟩
  · exact hidden_push hkey

theorem visible_remove : (as.remove m key).visible = (as.alone.remove m key).entries := by
  rw [remove, remove, has_alone hkey]
  split
  · exact filter_eraseP_of_pos fun _ he => seen_of_holds hkey he
  · rfl

theorem hidden_remove : (as.remove m key).hidden = as.hidden := by
  rw [remove]
  split
  · exact filter_eraseP_of_neg fun _ he => (isHidden_of_holds he).trans hkey
  · rfl

end Visible

theorem filter_foldKeys {r : Bool → Bool} :
    as.foldKeys.entries.filter (fun e => r e.isHidden) =
      (as.entries.filter fun e => r e.isHidden).map fun e =>
        if e.isHidden then e else { e with key := lower e.key } := by
  have hkept : ∀ e : Entry, (if e.isHidden then e else { e with key := lower e.key }).isHidden =
      e.isHidden := by
    intro e
    cases he : e.isHidden with
    | true => simpa using he
    | false => exact isHiddenKey_lower he
  rw [foldKeys, List.filter_map]
  congr 2
  funext e
  exact congrArg r (hkept e)

theorem visible_foldKeys : as.foldKeys.visible = as.alone.foldKeys.entries :=
  filter_foldKeys (r := (!·))

theorem hidden_foldKeys : as.foldKeys.hidden = as.hidden := by
  refine (filter_foldKeys (r := id)).trans
    ((List.map_congr_left fun e he => ?_).trans (List.map_id _))
  have hhidden : e.isHidden = true := (List.mem_filter.mp he).2
  rw [if_pos hhidden]
  rfl

theorem visible_deduplicate :
    (as.deduplicate m).1.visible = (as.alone.deduplicate m).1.entries :=
  filter_firstOfEach (r := (!isHiddenKey ·)) fun _ _ h => congrArg (!·) (isHiddenKey_of_holds h)

theorem hidden_deduplicate
    (h : (as.hidden.map Entry.key).Pairwise fun k l => m.holds l k = false) :
    (as.deduplicate m).1.hidden = as.hidden :=
  (filter_firstOfEach (r := isHiddenKey) fun _ _ h => isHiddenKey_of_holds h).trans
    ((firstOfEach_eq_firsts m _).trans (firsts_of_pairwise (List.pairwise_map.mp h)))

theorem visible_clear : as.clear.visible = as.alone.clear.entries := by
  simp [clear, visible, alone]

theorem hidden_clear : as.clear.hidden = as.hidden := by simp [clear, hidden]

def upsert (as : Attributes) (key : String) (f : Slot → Slot) (new : Slot) : Attributes :=
  if as.has .exact key then as.changeHidden key f else as.push key new

section Hidden

variable {f : Slot → Slot} {new : Slot}

theorem find?_upsert_self : (as.upsert key f new).find? .exact key =
    some ⟨key, ((as.find? .exact key).map fun e => f e.slot).getD new⟩ := by
  rw [upsert, has]
  cases hfind : as.find? .exact key with
  | some e =>
    have hfirst : as.entries.find? (·.key == key) = some e := hfind
    have hkey := List.find?_some hfirst
    have hchanged : (as.changeHidden key f).find? .exact key =
        (as.entries.find? (·.key == key)).map fun e => { e with slot := f e.slot } :=
      find?_changeFirst_self fun e he => he
    rw [hfirst] at hchanged
    exact hchanged.trans (by rw [Option.map_some, eq_of_beq hkey]; rfl)
  | none =>
    have hnone : as.entries.find? (·.key == key) = none := hfind
    simp [push, find?, Match.holds, hnone]

theorem find?_upsert_other (h : m.holds k key = false) :
    (as.upsert key f new).find? m k = as.find? m k := by
  rw [upsert]
  split
  · refine find?_changeFirst_other fun e he => ?_
    rw [eq_of_beq he]
    exact ⟨h, h⟩
  · simp [push, find?, h]

theorem visible_upsert (hkey : isHiddenKey key = true) :
    (as.upsert key f new).visible = as.visible := by
  rw [upsert]
  split
  · refine filter_changeFirst_of_neg fun e he => ?_
    have hhidden : isHiddenKey e.key = true := (congrArg isHiddenKey (eq_of_beq he)).trans hkey
    simp [Entry.isHidden, hhidden]
  · simp [push, visible, Entry.isHidden, hkey]

theorem mem_upsert (h : e ∈ (as.upsert key f new).entries) : e ∈ as.entries ∨
    (∃ d ∈ as.entries, d.key = key ∧ e = ⟨key, f d.slot⟩) ∨ e = ⟨key, new⟩ := by
  rw [upsert] at h
  split at h
  · rcases mem_changeFirst h with he | ⟨d, hd, hkey, rfl⟩
    · exact .inl he
    · have hkey : d.key = key := eq_of_beq hkey
      exact .inr (.inl ⟨d, hd, hkey, by rw [hkey]⟩)
  · rcases List.mem_append.mp h with he | he
    · exact .inl he
    · exact .inr (.inr (List.mem_singleton.mp he))

theorem nodup_upsert (h : (as.entries.map Entry.key).Nodup) :
    ((as.upsert key f new).entries.map Entry.key).Nodup := by
  rw [upsert]
  split
  · have hkeys : (as.changeHidden key f).entries.map Entry.key = as.entries.map Entry.key :=
      keys_changeFirst fun _ _ => rfl
    rwa [hkeys]
  · next hmissing =>
    rw [push, List.map_append]
    refine List.nodup_append.mpr ⟨h, List.nodup_singleton key, fun k hk l hl hkl => hmissing ?_⟩
    obtain ⟨e, he, hek⟩ := List.mem_map.mp hk
    have hkey : e.key = key := hek.trans (hkl.trans (List.mem_singleton.mp hl))
    exact List.find?_isSome.mpr ⟨e, he, beq_iff_eq.mpr hkey⟩

theorem hidden_upsert (hkey : isHiddenKey key = true) :
    (as.upsert key f new).hidden = ((⟨as.hidden, 0⟩ : Attributes).upsert key f new).entries := by
  have hfind : (⟨as.hidden, 0⟩ : Attributes).has .exact key = as.has .exact key :=
    congrArg Option.isSome (find?_filter_of_pos fun _ he => (isHidden_of_holds he).trans hkey)
  rw [upsert, upsert, hfind]
  split
  · refine filter_changeFirst_of_pos fun e he => ?_
    have hhidden : e.isHidden = true := (congrArg isHiddenKey (eq_of_beq he)).trans hkey
    exact ⟨hhidden, hhidden⟩
  · simp [push, hidden, Entry.isHidden, hkey]

end Hidden

theorem put_eq (as : Attributes) (key : String) (value : Option String) :
    as.put key value = as.upsert key (fun _ => .text value) (.text value) := by
  rw [put, set, upsert]
  split
  · refine congrArg (Attributes.mk · as.changes) (changeFirst_congr fun e he => ?_)
    rw [eq_of_beq he]
  · rfl

def written (key : String) (value : Option Datum) (d : Dict Datum) : Dict Datum :=
  match value with
  | some v => d.insert key v
  | none => d.erase key

def overUserData (f : Dict Datum → Dict Datum) : Slot → Slot
  | .userData d => .userData (f d)
  | other => other

def overRanges (f : Dict AttributeRange → Dict AttributeRange) : Slot → Slot
  | .ranges d => .ranges (f d)
  | other => other

theorem setUserData_eq (as : Attributes) (key : String) (value : Option Datum) :
    as.setUserData key value = if as.hasUserData = false ∧ value = none then as
      else as.upsert userDataKey (overUserData (written key value))
        (.userData (written key value .empty)) := by
  cases h : as.hasUserData with
  | true =>
    rw [if_neg (by simp), upsert, if_pos (by exact h)]
    simp only [setUserData, h]
    rfl
  | false =>
    cases value with
    | none => simp [setUserData, h]
    | some v =>
      rw [if_neg (by simp), upsert, if_neg (by simpa [hasUserData] using h)]
      simp only [setUserData, h]
      rfl

theorem setSourceRange_eq (as : Attributes) (key : String) (range : AttributeRange) :
    as.setSourceRange key range = as.upsert rangesKey (overRanges (·.insert key range))
      (.ranges (Dict.empty.insert key range)) := by
  rw [setSourceRange, upsert]
  rfl

theorem find?_setUserData {value : Option Datum} (h : m.holds k userDataKey = false) :
    (as.setUserData key value).find? m k = as.find? m k := by
  rw [setUserData_eq]
  split
  · rfl
  · exact find?_upsert_other h

end Attributes

end MarkupForest
