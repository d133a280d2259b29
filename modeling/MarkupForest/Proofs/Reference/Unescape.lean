import MarkupForest.Proofs.Reference.Escape
import Mathlib.Data.List.Forall2
import Mathlib.Data.List.TakeWhile
import Mathlib.Data.Nat.Digits.Defs

namespace MarkupForest.Reference

open Text

variable {base m n : Nat} {c d : Char} {body rest sign s t u : List Char}
  {means means' : List Char → Char → Prop}

def Digit (base : Nat) (c : Char) (d : Nat) : Prop :=
  d < base ∧ (c = d.digitChar ∨ c = d.digitChar.toUpper)

def Numeral (base : Nat) (s : List Char) (n : Nat) : Prop :=
  ∃ ds, s ≠ [] ∧ List.Forall₂ (Digit base) s ds ∧ Nat.ofDigits base ds.reverse = n

inductive Number (sign : List Char) : List Char → Char → Prop
  | decimal {s : List Char} {c : Char} :
      Numeral 10 s c.toNat → Number sign ('#' :: (sign ++ s)) c
  | hexadecimal {x : Char} {s : List Char} {c : Char} :
      x = 'x' ∨ x = 'X' → Numeral 16 s c.toNat → Number sign ('#' :: x :: (sign ++ s)) c

def Denotes (body : List Char) (c : Char) : Prop := (body, c) ∈ named ∨ Number [] body c

def Accepted (body : List Char) (c : Char) : Prop := Denotes body c ∨ Number ['+'] body c

/-- The semicolon is the nearest one, and at most twelve bytes from the ampersand. -/
inductive Starts (means : List Char → Char → Prop) : List Char → Char → List Char → Prop
  | mk {body rest : List Char} {c : Char} : ';' ∉ body → width body + 1 ≤ 12 → means body c →
      Starts means (body ++ ';' :: rest) c rest

inductive Scan (means : List Char → Char → Prop) : List Char → List Char → Prop
  | nil : Scan means [] []
  | copied {c : Char} {s t : List Char} : c ≠ '&' → Scan means s t → Scan means (c :: s) (c :: t)
  | reference {s rest t : List Char} {c : Char} :
      Starts means s c rest → Scan means rest t → Scan means ('&' :: s) (c :: t)
  | kept {s t : List Char} :
      (∀ c rest, ¬ Starts means s c rest) → Scan means s t → Scan means ('&' :: s) ('&' :: t)

/-- No ampersand begins a reference that has a plus sign. -/
def Unsigned (s : List Char) : Prop :=
  ∀ after, ('&' :: after) <:+ s → ∀ c rest, ¬ Starts (Number ['+']) after c rest

theorem toNat_digitChar : ∀ n < 16, n.digitChar.toNat = (if n < 10 then n + 48 else n + 87) ∧
    n.digitChar.toUpper.toNat = if n < 10 then n + 48 else n + 55 := by decide

theorem digit?_iff (hbase : base ≤ 16) : digit? base c = some n ↔ Digit base c n := by
  by_cases hn : n < base
  · obtain ⟨hlower, hupper⟩ := toNat_digitChar n (hn.trans_le hbase)
    rw [Digit, and_iff_right hn, ← Char.toNat_inj, ← Char.toNat_inj, hlower, hupper]
    have h0 : '0' ≤ c ∧ c ≤ '9' ↔ 48 ≤ c.toNat ∧ c.toNat ≤ 57 := Iff.rfl
    have h1 : 'a' ≤ c ∧ c ≤ 'f' ↔ 97 ≤ c.toNat ∧ c.toNat ≤ 102 := Iff.rfl
    have h2 : 'A' ≤ c ∧ c ≤ 'F' ↔ 65 ≤ c.toNat ∧ c.toNat ≤ 70 := Iff.rfl
    have hval : '0'.toNat = 48 ∧ 'a'.toNat = 97 ∧ 'A'.toNat = 65 := by decide
    simp only [digit?, h0, h1, h2, hval]
    split_ifs <;> simp only [Option.some.injEq, false_iff] <;> omega
  · refine iff_of_false (fun h => ?_) fun h => hn h.1
    obtain ⟨hlt, heq⟩ := Option.ite_none_right_eq_some.mp h
    exact hn (Option.some.inj heq ▸ hlt)

theorem digitsFrom?_iff (hbase : base ≤ 16) : digitsFrom? base m s = some n ↔
    ∃ ds, List.Forall₂ (Digit base) s ds ∧ ds.foldl (fun m d => d + base * m) m = n := by
  induction s generalizing m with
  | nil => simp [digitsFrom?]
  | cons c s ih =>
    rw [digitsFrom?]
    cases hd : digit? base c with
    | some d =>
      simp only [ih]
      constructor
      · rintro ⟨ds, hds, hn⟩
        refine ⟨d :: ds, .cons ((digit?_iff hbase).mp hd) hds, ?_⟩
        rwa [List.foldl_cons, Nat.add_comm d, Nat.mul_comm base]
      · rintro ⟨_, hds, hn⟩
        obtain ⟨d', ds, hd', htail, rfl⟩ := List.forall₂_cons_left_iff.mp hds
        cases hd.symm.trans ((digit?_iff hbase).mpr hd')
        rw [List.foldl_cons, Nat.add_comm d, Nat.mul_comm base] at hn
        exact ⟨ds, htail, hn⟩
    | none =>
      refine iff_of_false nofun ?_
      rintro ⟨_, hds, -⟩
      obtain ⟨d, _, hd', _⟩ := List.forall₂_cons_left_iff.mp hds
      cases hd.symm.trans ((digit?_iff hbase).mpr hd')

theorem digits?_iff (hbase : base ≤ 16) : digits? base s = some n ↔ Numeral base s n := by
  have hfold (ds : List Nat) : Nat.ofDigits base ds.reverse =
      ds.foldl (fun m d => d + base * m) 0 := by
    rw [Nat.ofDigits_eq_foldr, List.foldr_reverse]
    rfl
  rw [digits?]
  split
  · next h => exact iff_of_false nofun fun ⟨_, hs, _⟩ => hs h
  · next h =>
    simp only [digitsFrom?_iff hbase, Numeral, hfold, ne_eq, h, not_false_eq_true, true_and]

theorem toNat_ofNat_of_valid (h : n.isValidChar) : (Char.ofNat n).toNat = n := by
  rw [Char.ofNat, dif_pos h]
  rfl

theorem scalar?_iff : scalar? n = some c ↔ c.toNat = n := by
  rw [scalar?]
  split
  · next h =>
    rw [Option.some.injEq, ← Char.toNat_inj, toNat_ofNat_of_valid h]
    exact eq_comm
  · next h =>
    refine iff_of_false nofun ?_
    rintro rfl
    exact h c.valid

theorem Digit.all {p : Char → Bool} (h : Digit base c n)
    (hp : ∀ d < base, p d.digitChar = true ∧ p d.digitChar.toUpper = true) : p c = true := by
  obtain ⟨hlt, rfl | rfl⟩ := h
  · exact (hp n hlt).1
  · exact (hp n hlt).2

theorem Numeral.all {p : Char → Bool} (h : Numeral base s n)
    (hp : ∀ d < base, p d.digitChar = true ∧ p d.digitChar.toUpper = true) :
    ∀ c ∈ s, p c = true := by
  obtain ⟨ds, _, hds, _⟩ := h
  clear * - hds hp
  induction hds with
  | nil => exact nofun
  | cons hd _ ih => exact List.forall_mem_cons.mpr ⟨hd.all hp, ih⟩

theorem Numeral.isDigit (h : Numeral 10 s n) : ∀ c ∈ s, c.isDigit = true := h.all (by decide)

theorem Numeral.isAlphanum (hbase : base ≤ 16) (h : Numeral base s n) :
    ∀ c ∈ s, c.isAlphanum = true := by
  have hall : ∀ d < 16, d.digitChar.isAlphanum = true ∧ d.digitChar.toUpper.isAlphanum = true := by
    decide
  exact h.all fun d hd => hall d (hd.trans_le hbase)

theorem number?_sign (hsign : sign = [] ∨ sign = ['+']) (hbase : base ≤ 16)
    (h : Numeral base s n) : number? base (sign ++ s) = some n := by
  rcases hsign with rfl | rfl
  · have hplus : ∀ r, s = '+' :: r → False := by
      rintro r rfl
      exact absurd (h.isAlphanum hbase '+' List.mem_cons_self) (by decide)
    rw [List.nil_append, number?.eq_2 base s hplus, digits?_iff hbase]
    exact h
  · exact (digits?_iff hbase).mpr h

theorem number?_cases (hbase : base ≤ 16) (h : number? base s = some n) :
    ∃ sign t, (sign = [] ∨ sign = ['+']) ∧ s = sign ++ t ∧ Numeral base t n := by
  unfold number? at h
  split at h
  · exact ⟨['+'], _, .inr rfl, rfl, (digits?_iff hbase).mp h⟩
  · exact ⟨[], s, .inl rfl, rfl, (digits?_iff hbase).mp h⟩

theorem Number.value?_eq (hsign : sign = [] ∨ sign = ['+']) (h : Number sign body c) :
    value? body = some c := by
  cases h with
  | @decimal s c hs =>
    have hmem : ∀ x ∈ sign ++ s, x = '+' ∨ x.isDigit = true := by
      intro x hx
      rcases List.mem_append.mp hx with hx | hx
      · rcases hsign with rfl | rfl
        · cases hx
        · exact .inl (List.mem_singleton.mp hx)
      · exact .inr (hs.isDigit x hx)
    have hother : ∀ x, x ≠ '+' → x.isDigit = false → ∀ r, sign ++ s = x :: r → False := by
      intro x hplus hdigit r heq
      rcases hmem x (heq ▸ List.mem_cons_self) with hx | hx
      · exact hplus hx
      · exact absurd hx (by simp [hdigit])
    rw [value?.eq_3 _ (hother 'x' (by decide) (by decide)) (hother 'X' (by decide) (by decide)),
      number?_sign hsign (by decide) hs]
    exact scalar?_iff.mpr rfl
  | hexadecimal hx hs =>
    rcases hx with rfl | rfl
    · rw [value?.eq_1, number?_sign hsign (by decide) hs]
      exact scalar?_iff.mpr rfl
    · rw [value?.eq_2, number?_sign hsign (by decide) hs]
      exact scalar?_iff.mpr rfl

theorem mem_named (h : nameValue? body = some c) : (body, c) ∈ named := by
  obtain ⟨⟨name, d⟩, hfind, rfl⟩ := Option.map_eq_some_iff.mp h
  have hname := List.find?_some hfind
  rw [← eq_of_beq hname]
  exact List.mem_of_find?_eq_some hfind

theorem accepted_of_number (hsign : sign = [] ∨ sign = ['+']) (h : Number sign body c) :
    Accepted body c := by
  rcases hsign with rfl | rfl
  · exact .inl (.inr h)
  · exact .inr h

theorem accepted_of_value? (h : value? body = some c) : Accepted body c := by
  have hnumber : ∀ {base s}, base ≤ 16 → (number? base s).bind scalar? = some c →
      ∃ sign t, (sign = [] ∨ sign = ['+']) ∧ s = sign ++ t ∧ Numeral base t c.toNat := by
    intro base s hbase hs
    obtain ⟨n, hn, hc⟩ := Option.bind_eq_some_iff.mp hs
    exact number?_cases hbase (scalar?_iff.mp hc ▸ hn)
  unfold value? at h
  split at h
  · obtain ⟨sign, t, hsign, rfl, ht⟩ := hnumber (by decide) h
    exact accepted_of_number hsign (.hexadecimal (.inl rfl) ht)
  · obtain ⟨sign, t, hsign, rfl, ht⟩ := hnumber (by decide) h
    exact accepted_of_number hsign (.hexadecimal (.inr rfl) ht)
  · obtain ⟨sign, t, hsign, rfl, ht⟩ := hnumber (by decide) h
    exact accepted_of_number hsign (.decimal ht)
  · exact .inl (.inl (mem_named h))

theorem value?_iff : value? body = some c ↔ Accepted body c := by
  constructor
  · exact accepted_of_value?
  · have hnames : ∀ e ∈ named, value? e.1 = some e.2 := by decide
    rintro ((h | h) | h)
    · exact hnames _ h
    · exact h.value?_eq (.inl rfl)
    · exact h.value?_eq (.inr rfl)

theorem Number.mem (h : Number sign body c) :
    ∀ d ∈ body, d = '#' ∨ d ∈ sign ∨ d.isAlphanum = true := by
  intro d hd
  cases h with
  | decimal hs =>
    rcases List.mem_cons.mp hd with rfl | hd
    · exact .inl rfl
    · exact .inr ((List.mem_append.mp hd).imp_right (hs.isAlphanum (by decide) d))
  | hexadecimal hx hs =>
    rcases List.mem_cons.mp hd with rfl | hd
    · exact .inl rfl
    · rcases List.mem_cons.mp hd with rfl | hd
      · exact .inr (.inr (by rcases hx with rfl | rfl <;> decide))
      · exact .inr ((List.mem_append.mp hd).imp_right (hs.isAlphanum (by decide) d))

theorem Denotes.mem (h : Denotes body c) : ∀ d ∈ body, d = '#' ∨ d.isAlphanum = true := by
  have hnames : ∀ e ∈ named, e.1.all Char.isAlphanum = true := by decide
  intro d hd
  rcases h with h | h
  · exact .inr (List.all_eq_true.mp (hnames _ h) d hd)
  · simpa using h.mem d hd

theorem Denotes.plus_not_mem (h : Denotes body c) : '+' ∉ body := by
  intro hin
  exact absurd (h.mem '+' hin) (by decide)

theorem Number.plus_mem (h : Number ['+'] body c) : '+' ∈ body := by
  cases h <;> simp

theorem Accepted.amp_not_mem (h : Accepted body c) : '&' ∉ body := by
  intro hin
  rcases h with h | h
  · exact absurd (h.mem '&' hin) (by decide)
  · exact absurd (h.mem '&' hin) (by decide)

theorem Starts.mono (h : Starts means s c rest) (hm : ∀ body c, means body c → means' body c) :
    Starts means' s c rest := by
  cases h with
  | mk hb hw hc => exact .mk hb hw (hm _ _ hc)

theorem Starts.of_body (h : Starts means (body ++ ';' :: t) c rest) (hb : ';' ∉ body) :
    means body c ∧ rest = t := by
  generalize hs : body ++ ';' :: t = s at h
  cases h with
  | mk hb' _ hc =>
    have hbody := congrArg (List.takeWhile (· != ';')) hs
    rw [takeWhile_append_cons (bne_of_not_mem hb) rfl,
      takeWhile_append_cons (bne_of_not_mem hb') rfl] at hbody
    subst hbody
    exact ⟨hc, (List.cons.inj (List.append_cancel_left hs)).2.symm⟩

theorem read?_iff : read? s = some (c, rest) ↔ Starts Accepted s c rest := by
  constructor
  · intro h
    by_cases hs : ';' ∈ s
    · obtain ⟨body, r, rfl, hb⟩ := List.eq_append_cons_of_mem hs
      have hall := bne_of_not_mem hb
      rw [read?, takeWhile_append_cons hall rfl, dropWhile_append_cons hall rfl] at h
      obtain ⟨hnear, h⟩ := Option.ite_none_left_eq_some.mp h
      obtain ⟨d, hd, heq⟩ := Option.map_eq_some_iff.mp h
      cases heq
      exact .mk hb (Nat.not_lt.mp hnear) (value?_iff.mp hd)
    · have hdrop : s.dropWhile (· != ';') = [] :=
        List.dropWhile_eq_nil_iff.mpr (bne_of_not_mem hs)
      rw [read?, hdrop] at h
      cases h
  · rintro ⟨hb, hw, hc⟩
    exact read?_append hb hw (value?_iff.mpr hc)

theorem Starts.length_lt (h : Starts means s c rest) : rest.length < s.length := by
  cases h with
  | mk =>
    simp only [List.length_append, List.length_cons]
    omega

theorem exists_scan (means : List Char → Char → Prop) (s : List Char) : ∃ t, Scan means s t := by
  induction hn : s.length using Nat.strong_induction_on generalizing s with
  | _ n ih =>
    subst hn
    cases s with
    | nil => exact ⟨[], .nil⟩
    | cons d s =>
      obtain ⟨t, ht⟩ := ih s.length (Nat.lt_succ_self _) s rfl
      by_cases hd : d = '&'
      · subst hd
        by_cases h : ∃ c rest, Starts means s c rest
        · obtain ⟨c, rest, hstart⟩ := h
          obtain ⟨u, hu⟩ := ih rest.length (hstart.length_lt.trans (Nat.lt_succ_self _)) rest rfl
          exact ⟨c :: u, .reference hstart hu⟩
        · exact ⟨'&' :: t, .kept (fun c rest hstart => h ⟨c, rest, hstart⟩) ht⟩
      · exact ⟨d :: t, .copied hd ht⟩

theorem Scan.unique (hm : ∀ body c, means body c → Accepted body c) (h : Scan means s t)
    (h' : Scan means s u) : t = u := by
  induction h generalizing u with
  | nil =>
    cases h'
    rfl
  | copied hc _ ih =>
    cases h' with
    | copied _ hs => rw [ih hs]
    | reference | kept => exact absurd rfl hc
  | reference hstart _ ih =>
    cases h' with
    | copied hc _ => exact absurd rfl hc
    | reference hstart' hs =>
      -- both are what the reader finds
      have hread := read?_iff.mpr (hstart.mono hm)
      rw [read?_iff.mpr (hstart'.mono hm)] at hread
      cases hread
      rw [ih hs]
    | kept hnone _ => exact absurd hstart (hnone _ _)
  | kept hnone _ ih =>
    cases h' with
    | copied hc _ => exact absurd rfl hc
    | reference hstart _ => exact absurd hstart (hnone _ _)
    | kept _ hs => rw [ih hs]

theorem scan_decode (s : List Char) : Scan Accepted s (decode s) := by
  fun_induction decode s with
  | case1 => exact .nil
  | case2 s d rest hread ih => exact .reference (read?_iff.mp hread) ih
  | case3 s hread ih =>
    refine .kept (fun c rest hstart => ?_) ih
    rw [read?_iff.mpr hstart] at hread
    cases hread
  | case4 c s hc ih => exact .copied hc ih

theorem Scan.append (hs : '&' ∉ s) (h : Scan means (s ++ t) u) :
    ∃ v, u = s ++ v ∧ Scan means t v := by
  induction s generalizing u with
  | nil => exact ⟨u, rfl, h⟩
  | cons c s ih =>
    rw [List.mem_cons, not_or] at hs
    cases h with
    | copied _ h =>
      obtain ⟨v, rfl, hv⟩ := ih hs.2 h
      exact ⟨v, rfl, hv⟩
    | reference | kept => exact absurd rfl hs.1

theorem unsigned_nil : Unsigned [] := by
  intro after h
  cases List.suffix_nil.mp h

theorem unsigned_cons (hc : c ≠ '&') : Unsigned (c :: s) ↔ Unsigned s := by
  simp only [Unsigned, List.suffix_cons_iff, List.cons.injEq, Ne.symm hc, false_and, false_or]

theorem unsigned_amp : Unsigned ('&' :: s) ↔
    (∀ c rest, ¬ Starts (Number ['+']) s c rest) ∧ Unsigned s := by
  simp only [Unsigned, List.suffix_cons_iff, List.cons.injEq, true_and, or_imp, forall_and,
    forall_eq]

theorem unsigned_append (hs : '&' ∉ s) : Unsigned (s ++ t) ↔ Unsigned t := by
  induction s with
  | nil => rfl
  | cons c s ih =>
    rw [List.mem_cons, not_or] at hs
    rw [List.cons_append, unsigned_cons (Ne.symm hs.1), ih hs.2]

structure Shortens (p : Prop) (t u : List Char) : Prop where
  length_le : t.length ≤ u.length
  eq : p → t = u
  plain : t.length = u.length → p

theorem Shortens.cons {p q : Prop} (h : Shortens p t u) (hq : q ↔ p) :
    Shortens q (c :: t) (c :: u) where
  length_le := Nat.succ_le_succ h.length_le
  eq hplain := congrArg (List.cons c) (h.eq (hq.mp hplain))
  plain hsize := hq.mpr (h.plain (Nat.succ.inj hsize))

theorem Scan.shortens (h : Scan Accepted s t) (h' : Scan Denotes s u) :
    Shortens (Unsigned s) t u := by
  induction h generalizing u with
  | nil =>
    cases h'
    exact ⟨Nat.le_refl _, fun _ => rfl, fun _ => unsigned_nil⟩
  | copied hc _ ih =>
    cases h' with
    | copied _ hs => exact (ih hs).cons (unsigned_cons hc)
    | reference | kept => exact absurd rfl hc
  | @reference _ rest _ c hstart _ ih =>
    obtain @⟨body, _, _, hb, hw, hc⟩ := hstart
    have hamp : '&' ∉ body ++ [';'] := by simp [hc.amp_not_mem]
    have hsplit : body ++ ';' :: rest = (body ++ [';']) ++ rest := by simp
    cases h' with
    | copied hne _ => exact absurd rfl hne
    | reference hstart' hs =>
      obtain ⟨hd, rfl⟩ := hstart'.of_body hb
      have hsame := (value?_iff.mpr hc).symm.trans (value?_iff.mpr (.inl hd))
      cases hsame
      refine (ih hs).cons (unsigned_amp.trans ?_)
      rw [hsplit, unsigned_append hamp, ← hsplit]
      refine and_iff_right fun c rest hplus => ?_
      exact hd.plus_not_mem (hplus.of_body hb).1.plus_mem
    | kept hnone hs =>
      -- the reader finds a plus sign here, and the grammar copies it with all that is around it
      have hplus := hc.resolve_left fun hd => hnone c rest (.mk hb hw hd)
      rw [hsplit] at hs
      obtain ⟨v, rfl, hv⟩ := hs.append hamp
      have hle := (ih hv).length_le
      refine ⟨?_, fun hu => ?_, fun hsize => ?_⟩
      · simp only [List.length_cons, List.length_append]
        omega
      · exact absurd (.mk hb hw hplus) ((unsigned_amp.mp hu).1 c rest)
      · simp only [List.length_cons, List.length_append] at hsize
        omega
  | kept hnone _ ih =>
    cases h' with
    | copied hne _ => exact absurd rfl hne
    | reference hstart _ => exact absurd (hstart.mono fun _ _ => Or.inl) (hnone _ _)
    | kept _ hs =>
      refine (ih hs).cons (unsigned_amp.trans (and_iff_right fun c rest hplus => ?_))
      exact hnone c rest (hplus.mono fun _ _ => Or.inr)

theorem unescape_scans_references (s : String) :
    (∀ t, Scan Accepted s.toList t ↔ t = (unescape s).toList) ∧
      (∃! t, Scan Denotes s.toList t) ∧
      (Scan Denotes s.toList (unescape s).toList ↔ Unsigned s.toList) := by
  rw [unescape, String.toList_ofList]
  have hscan := scan_decode s.toList
  obtain ⟨u, hu⟩ := exists_scan Denotes s.toList
  have hshort := hscan.shortens hu
  refine ⟨fun t => ⟨fun ht => ht.unique (fun _ _ => id) hscan, fun ht => ht ▸ hscan⟩,
    ⟨u, hu, fun t ht => ht.unique (fun _ _ => Or.inl) hu⟩, fun h => ?_, fun h => ?_⟩
  · exact (hscan.shortens h).plain rfl
  · exact hshort.eq h ▸ hu

example : unescape "&#65;&#+65;&#x+42; &#++65; &" = "AAB &#++65; &" := by cbv

theorem denotes_of_mem_bodies (hbody : body ∈ bodies) (h : value? body = some c) :
    Denotes body c := by
  have hplus : ∀ b ∈ bodies, '+' ∉ b := by decide
  exact (value?_iff.mp h).resolve_right fun hnumber => hplus body hbody hnumber.plus_mem

theorem scan_encode (spot : Spot) (dialect : Dialect) (s : List Char)
    (hm : ∀ body c, Denotes body c → means body c) (h : Scan means t u) :
    Scan means (encode spot dialect s ++ t) (s ++ u) := by
  induction s with
  | nil => exact h
  | cons c s ih =>
    rw [encode, List.flatMap_cons, ← encode, List.append_assoc, List.cons_append]
    rcases spell_cases spot dialect c with ⟨hs, hc, _⟩ | ⟨body, hbody, hs, hv⟩
    · rw [hs]
      exact .copied hc ih
    · rw [hs, List.cons_append, List.append_assoc]
      exact .reference (.mk (mem_bodies (.inl rfl) body hbody) (width_bodies body hbody)
        (hm body c (denotes_of_mem_bodies hbody hv))) ih

theorem decode_encode_append (spot : Spot) (dialect : Dialect) (s t : List Char) :
    decode (encode spot dialect s ++ t) = s ++ decode t :=
  (scan_decode _).unique (fun _ _ => id)
    (scan_encode spot dialect s (fun _ _ => Or.inl) (scan_decode t))

theorem decode_encode (spot : Spot) (dialect : Dialect) (s : List Char) :
    decode (encode spot dialect s) = s := by
  have h := decode_encode_append spot dialect s []
  rwa [List.append_nil, decode, List.append_nil] at h

theorem unescape_escape (spot : Spot) (dialect : Dialect) (s : String) :
    unescape (escape spot dialect s) = s ∧
      (∀ t, unescape (escape spot dialect s ++ t) = s ++ unescape t) ∧
      Scan Denotes (escape spot dialect s).toList s.toList := by
  refine ⟨?_, fun t => ?_, ?_⟩
  · rw [unescape, toList_escape, decode_encode, String.ofList_toList]
  · rw [unescape, String.toList_append, toList_escape, decode_encode_append, String.ofList_append,
      String.ofList_toList, ← unescape]
  · rw [toList_escape]
    simpa using scan_encode spot dialect s.toList (fun _ _ => id) .nil

end MarkupForest.Reference
