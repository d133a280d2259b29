import MarkupForest.Proofs.Edit.Failure
import MarkupForest.Proofs.Copying.DeepClone
import MarkupForest.Proofs.Attribute.UserData

namespace MarkupForest

open Edit Forest

variable {f g : Forest} {id d x y : NodeId} {as bs : Attributes} {m : Attributes.Match}
  {key : String}

theorem Attributes.find?_congr (h : as.entries = bs.entries) : as.find? m key = bs.find? m key := by
  rw [find?, find?, h]

namespace Forest

def baseOwner? (f : Forest) (id : NodeId) : Option NodeId :=
  (f.lineage id).find? fun x => (f.ownBase? x).isSome

/-- A copy takes along the base URI of the node itself, or else that of its document. -/
def carriedBase? (f : Forest) (id : NodeId) : Option String :=
  (f.ownBase? id).or ((f.ownerDocument? id).bind f.ownBase?)

theorem findSome?_lineage :
    (f.lineage id).findSome? f.ownBase? = (f.baseOwner? id).bind f.ownBase? := by
  rw [baseOwner?]
  induction f.lineage id with
  | nil => rfl
  | cons x way ih =>
    cases hx : f.ownBase? x with
    | none => rw [List.findSome?_cons, hx, List.find?_cons_of_neg (by simp [hx]), ih]
    | some base => rw [List.findSome?_cons, hx, List.find?_cons_of_pos (by simp [hx]),
        Option.bind_some, hx]

theorem entries_store_of_matter (h : g.matter? y = f.matter? x) :
    (g.store y).entries = (f.store x).entries := by
  cases hn : f.get? x with
  | none =>
    have hnone : g.get? y = none := by
      rw [matter?, matter?, hn] at h
      exact Option.map_eq_none_iff.mp h
    rw [store, store, hn, hnone]
  | some n =>
    obtain ⟨n', hn', hm⟩ := exists_matter h hn
    have hentries : n'.attributes?.map Attributes.entries = n.attributes?.map Attributes.entries :=
      congrArg (fun m => m.2.1) hm
    rw [store, store, hn, hn', Option.bind_some, Option.bind_some]
    revert hentries
    cases n'.attributes? <;> cases n.attributes? <;> intro hentries
    · rfl
    · cases hentries
    · cases hentries
    · exact Option.some_inj.mp hentries

theorem ownBase?_of_matter (h : g.matter? y = f.matter? x) : g.ownBase? y = f.ownBase? x := by
  have hfind : (g.store y).find? .exact Attributes.baseUriKey =
      (f.store x).find? .exact Attributes.baseUriKey :=
    Attributes.find?_congr (entries_store_of_matter h)
  rw [ownBase?_eq, ownBase?_eq, Attributes.has, Attributes.has, Attributes.get,
    Attributes.get, hfind]

theorem Extends.baseUri_eq (h : f.Extends g) (hf : f.WellFormed) (hg : g.WellFormed)
    (hx : x < f.size) : g.baseUri x = f.baseUri x := by
  have hown : ∀ y ∈ f.lineage x, g.ownBase? y = f.ownBase? y := fun y hy => by
    have hlt := hf.lt_of_above (hf.mem_lineage_iff.mp hy) hx
    rw [ownBase?, h.get?_eq hlt, ownBase?]
  have hbases : (f.lineage x).findSome? g.ownBase? = (f.lineage x).findSome? f.ownBase? := by
    rw [← Function.id_comp g.ownBase?, ← Function.id_comp f.ownBase?, ← List.findSome?_map,
      ← List.findSome?_map, List.map_congr_left hown]
  rw [baseUri_ok hx, baseUri_ok (hx.trans_le h.size_le), h.lineage_eq hf hg hx, hbases]

theorem Cloned.size_lt (h : Cloned f id g) : f.size < g.size := by
  obtain ⟨φ, hφ⟩ := h.mirrored
  rw [← hφ.root]
  exact (hφ.fresh id (.refl id)).2

theorem Cloned.baseUri_eq (h : Cloned f id g) (hg : g.WellFormed) (hid : id < f.size) :
    g.baseUri f.size = .ok ((f.carriedBase? id).getD "") := by
  obtain ⟨φ, hφ⟩ := h.mirrored
  have hself : g.ownBase? f.size = f.ownBase? id := by
    rw [← hφ.root]
    exact ownBase?_of_matter (hφ.matter id (.refl id))
  have hask : f.ownerDocument id = .ok (f.ownerDocument? id) := by
    obtain ⟨n, _, hfind⟩ := find_of_lt hid
    rw [ownerDocument, hfind]
    rfl
  rw [baseUri_ok h.size_lt, carriedBase?, ← hself]
  cases hdoc : f.isDocument id with
  | true =>
    have hroot : g.lineage f.size = [f.size] := hg.lineage_eq (.root (h.free (.inl hdoc)))
    rw [hroot, ownerDocument?_self hdoc, Option.bind_some, ← hself]
    cases hbase : g.ownBase? f.size <;> simp [hbase]
  | false =>
    cases ho : f.ownerDocument? id with
    | none =>
      have hroot : g.lineage f.size = [f.size] :=
        hg.lineage_eq (.root (h.free (.inr (hask.trans (congrArg _ ho)))))
      rw [hroot]
      cases hbase : g.ownBase? f.size <;> simp [hbase]
    | some d =>
      have hcopied := (h.held d hdoc (hask.trans (congrArg _ ho))).2
      have hway : g.lineage f.size = [f.size, f.size + 1] :=
        hg.lineage_eq (.step hcopied.parent (.root hcopied.root))
      have hholder : g.ownBase? (f.size + 1) = f.ownBase? d := ownBase?_of_matter hcopied.matter
      rw [hway, Option.bind_some, ← hholder]
      cases hbase : g.ownBase? f.size <;> cases hbase' : g.ownBase? (f.size + 1) <;>
        simp [hbase, hbase']

theorem Cloned.entries_store (h : Cloned f id g) (hid : id < f.size) :
    (g.store f.size).entries = (g.store id).entries := by
  obtain ⟨φ, hφ⟩ := h.mirrored
  have hcopy := hφ.matter id (.refl id)
  rw [hφ.root] at hcopy
  refine entries_store_of_matter (hcopy.trans ?_)
  rw [matter?, matter?, h.old.get?_eq hid]

theorem absoluteUrl_of_entries (hx : x < g.size) (hy : y < g.size)
    (hentries : (g.store y).entries = (g.store x).entries) (hbase : g.baseUri y = g.baseUri x)
    (resolve : Resolver) (key : String) :
    g.absoluteUrl resolve y key = g.absoluteUrl resolve x key := by
  obtain ⟨n, _, hn⟩ := find_of_lt hx
  obtain ⟨n', _, hn'⟩ := find_of_lt hy
  have hlook : (g.store y).look key = (g.store x).look key := by
    rw [Attributes.look, Attributes.find?_congr hentries, Attributes.look]
  simp only [absoluteUrl_eq, hn, hn', Except.bind, hbase, Attributes.has_eq,
    Attributes.get_eq, hlook]

theorem mem_lineage_self : id ∈ f.lineage id := by
  rw [lineage, climb]
  exact List.mem_cons_self

theorem ownBase?_of_baseOwner?_eq_none (h : f.baseOwner? id = none) (hx : x ∈ f.lineage id) :
    f.ownBase? x = none := by
  have hnot := List.find?_eq_none.mp h x hx
  rwa [Bool.not_eq_true, Option.isSome_eq_false_iff, Option.isNone_iff_eq_none] at hnot

theorem ownBase?_self_of_baseOwner? (h : f.baseOwner? id = some x) (hne : x ≠ id) :
    f.ownBase? id = none := by
  by_contra hsome
  rw [← ne_eq, ← Option.isSome_iff_ne_none] at hsome
  rw [baseOwner?, lineage, climb,
    List.find?_cons_of_pos (p := fun x => (f.ownBase? x).isSome) hsome,
    Option.some_inj] at h
  exact hne h.symm

theorem carriedBase?_eq
    (h : ∀ x, f.baseOwner? id = some x → x = id ∨ f.ownerDocument? id = some x) :
    f.carriedBase? id = (f.lineage id).findSome? f.ownBase? := by
  rw [findSome?_lineage, carriedBase?]
  cases hx : f.baseOwner? id with
  | none =>
    have hdoc : (f.ownerDocument? id).bind f.ownBase? = none := by
      cases ho : f.ownerDocument? id with
      | none => rfl
      | some d => exact ownBase?_of_baseOwner?_eq_none hx (List.mem_of_find?_eq_some ho)
    rw [ownBase?_of_baseOwner?_eq_none hx mem_lineage_self, hdoc]
    rfl
  | some x =>
    by_cases hself : x = id
    · subst hself
      have hset : (f.ownBase? x).isSome := by simpa using List.find?_some hx
      obtain ⟨base, hbase⟩ := Option.isSome_iff_exists.mp hset
      rw [Option.bind_some, hbase, Option.some_or]
    · rw [ownBase?_self_of_baseOwner? hx hself, (h x hx).resolve_left hself, Option.none_or]

end Forest

theorem copies_carry_bases (h : Reachable f) (hid : id < f.size) :
    ∃ g, deepClone id f = .ok f.size g ∧ g.baseUri id = f.baseUri id ∧
      g.baseUri f.size = .ok ((f.carriedBase? id).getD "") ∧
      ((∀ x, f.baseOwner? id = some x → x = id ∨ f.ownerDocument? id = some x) →
        g.baseUri f.size = g.baseUri id ∧
        ∀ resolve key, g.absoluteUrl resolve f.size key = g.absoluteUrl resolve id key) ∧
      ∀ x base, f.baseOwner? id = some x → f.ownBase? x = some base → x ≠ id →
        f.ownerDocument? id ≠ some x →
        (g.baseUri f.size = g.baseUri id ↔
          ((f.ownerDocument? id).bind f.ownBase?).getD "" = base) := by
  have hf := h.wellFormed
  obtain ⟨n, hn, hfind⟩ := find_of_lt hid
  have hcloned := hf.cloned hn
  obtain ⟨hold, hg⟩ := hf.copySubtree hn
  refine ⟨f.copySubtree id n, deepClone_ok hfind, ?_⟩
  generalize f.copySubtree id n = g at hcloned hold hg
  have hsource := hold.baseUri_eq hf hg hid
  have hcopy := hcloned.baseUri_eq hg hid
  have hlt := hcloned.size_lt
  refine ⟨hsource, hcopy, fun hcarried => ?_, fun x base hx hbase hself hdoc => ?_⟩
  · have hsame : g.baseUri f.size = g.baseUri id := by
      rw [hcopy, hsource, carriedBase?_eq hcarried, baseUri_ok hid]
    exact ⟨hsame, absoluteUrl_of_entries (hid.trans hlt) hlt (hcloned.entries_store hid) hsame⟩
  · rw [hcopy, hsource, baseUri_ok hid, findSome?_lineage, hx, Option.bind_some, hbase,
      carriedBase?, ownBase?_self_of_baseOwner? hx hself, Option.none_or, Except.ok.injEq,
      Option.getD_some]

def basedList : Forest :=
  runAll Url.resolve (readFragment .html)
    [.createDocument .folded ⟨.html⟩ "a:/b", .createElement "ul", .createElement "li",
      .restructure (.appendChild 0 1), .restructure (.appendChild 1 2), .setBaseUri 1 "c:/d"] .empty

theorem copies_carry_bases_basedList :
    Reachable basedList ∧ 1 < basedList.size ∧ 2 < basedList.size ∧
      (∃ g, deepClone 1 basedList = .ok 3 g ∧ g.baseUri 3 = g.baseUri 1) ∧
      ∃ g, deepClone 2 basedList = .ok 3 g ∧ g.baseUri 2 = .ok "c:/d" ∧ g.baseUri 3 = .ok "a:/b" ∧
        g.baseUri 3 ≠ g.baseUri 2 := by
  have h : Reachable basedList := reaches_runAll _
  have hlist : 1 < basedList.size := by decide
  have hitem : 2 < basedList.size := by decide
  obtain ⟨g, hg, -, -, hkept, -⟩ := copies_carry_bases h hlist
  obtain ⟨k, hk, hsource, hcopy, -, hlost⟩ := copies_carry_bases h hitem
  have howner : basedList.baseOwner? 1 = some 1 := by decide
  refine ⟨h, hlist, hitem, ⟨g, hg, (hkept fun x hx => .inl ?_).1⟩, k, hk, ?_, ?_, ?_⟩
  · exact Option.some_inj.mp (hx.symm.trans howner)
  · exact hsource.trans (by decide)
  · exact hcopy.trans (by decide)
  · intro hsame
    have hbase := (hlost 1 "c:/d" (by decide) (by decide) (by decide) (by decide)).mp hsame
    exact absurd hbase (by decide)

theorem base_on_the_way_stays_behind :
    ¬ ∀ (f : Forest) (id : NodeId), Reachable f → id < f.size →
      ∀ copy g, deepClone id f = .ok copy g → g.baseUri copy = g.baseUri id := by
  intro h
  have hsame := h basedList 2 (reaches_runAll _) (by decide) 3 ((deepClone 2).after basedList) rfl
  exact absurd hsame (by decide)

end MarkupForest
