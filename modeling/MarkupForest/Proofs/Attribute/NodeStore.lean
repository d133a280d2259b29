import MarkupForest.Proofs.Forest.Extension

namespace MarkupForest

open Edit Forest

def Forest.store (f : Forest) (id : NodeId) : Attributes :=
  ((f.get? id).bind Node.attributes?).getD .empty

namespace Forest

variable {f : Forest} {id : NodeId} {u : Attributes → Attributes}

@[simp] theorem childList?_changeAttributes :
    (f.changeAttributes id u).childList? id = f.childList? id :=
  sameLinks_mapAttributes.list id

@[simp] theorem childList?_changeExisting :
    (f.changeExisting id u).childList? id = f.childList? id :=
  sameLinks_mapAttributes.list id

theorem store_changeAttributes (h : (f.childList? id).isSome) :
    (f.changeAttributes id u).store id = u (f.store id) := by
  obtain ⟨l, hl⟩ := Option.isSome_iff_exists.mp h
  obtain ⟨n, hn, hc⟩ := Option.bind_eq_some_iff.mp hl
  obtain ⟨c, hc, _⟩ := Option.map_eq_some_iff.mp hc
  simp [store, changeAttributes, get?_modify, hn, Node.attributes?, Node.mapAttributes, hc]

theorem store_changeAttributes_of_ne {x : NodeId} (h : id ≠ x) :
    (f.changeAttributes id u).store x = f.store x := by
  rw [store, store, changeAttributes, get?_modify, if_neg h]

theorem store_changeExisting (h : u .empty = .empty) :
    (f.changeExisting id u).store id = u (f.store id) := by
  have hnode : ∀ n : Node, (n.mapAttributes (Option.map u)).attributes? = n.attributes?.map u := by
    intro n
    rw [Node.attributes?, Node.attributes?, Node.mapAttributes, Body.container?_mapContainer]
    cases n.body.container? <;> rfl
  rw [store, store, changeExisting, get?_modify, if_pos rfl]
  cases f.get? id with
  | none => exact h.symm
  | some n =>
    show ((n.mapAttributes (Option.map u)).attributes?).getD .empty = u (n.attributes?.getD .empty)
    rw [hnode]
    cases n.attributes? with
    | none => exact h.symm
    | some as => rfl

theorem attributeCount_eq : f.attributeCount id = (f.store id).size := by
  rw [attributeCount, store]
  cases (f.get? id).bind Node.attributes? <;> rfl

theorem ownBase?_eq : f.ownBase? id =
    if (f.store id).has .exact Attributes.baseUriKey then
      some ((f.store id).get .exact Attributes.baseUriKey)
    else none := by
  rw [ownBase?, store]
  cases (f.get? id).bind Node.attributes? <;> rfl

theorem store_of_find {n : Node} (h : f.find id = .ok n) :
    f.store id = n.attributes?.getD .empty := by
  rw [store, find_eq_ok_iff.mp h, Option.bind_some]

theorem absoluteUrl_eq {resolve : Resolver} {key : String} : f.absoluteUrl resolve id key =
    if key = "" then .error (.badArgument .emptyKey) else (f.find id).bind fun _ =>
      if (f.store id).has .anyCase key then
        (f.baseUri id).map (resolve · ((f.store id).get .anyCase key))
      else .ok "" := by
  rw [absoluteUrl, Forest.attributes]
  split
  · rfl
  · cases hfind : f.find id with
    | error x => rfl
    | ok n =>
      have hstore := store_of_find hfind
      cases hn : n.attributes? with
      | none =>
        simp only [bind, Except.bind, pure, Except.pure, hstore, hn]
        rfl
      | some as =>
        simp only [bind, Except.bind, pure, Except.pure, hstore, hn, Option.getD_some]
        cases f.baseUri id <;> rfl

theorem attributeValue_eq {resolve : Resolver} {key : String} : f.attributeValue resolve id key =
    if key = "" then .error (.badArgument .emptyKey) else if isHiddenKey key then .ok ""
    else (f.find id).bind fun _ =>
      if (f.store id).has .anyCase key then .ok ((f.store id).get .anyCase key)
      else match absoluteName? key with
        | some name => f.absoluteUrl resolve id name
        | none => .ok "" := by
  rw [attributeValue, Forest.attributes]
  split
  · rfl
  · cases isHiddenKey key with
    | true => rfl
    | false =>
      cases hfind : f.find id with
      | error x => rfl
      | ok n =>
        have hstore := store_of_find hfind
        cases hn : n.attributes? with
        | none =>
          simp only [bind, Except.bind, pure, Except.pure, hstore, hn]
          rfl
        | some as =>
          cases hhas : as.has .anyCase key with
          | true => simp [bind, Except.bind, pure, Except.pure, hstore, hn, hhas]
          | false =>
            cases absoluteName? key <;>
              simp [bind, Except.bind, pure, Except.pure, hstore, hn, hhas]

theorem hasAttribute_eq {resolve : Resolver} {key : String} : f.hasAttribute resolve id key =
    if key = "" || isHiddenKey key then false
    else (match absoluteName? key with
      | some name =>
        (f.store id).has .anyCase name && (f.absoluteUrl resolve id name).toOption.any (· != "")
      | none => false) || (f.store id).has .anyCase key := by
  rw [hasAttribute, store]
  cases (f.get? id).bind Node.attributes? with
  | none =>
    cases absoluteName? key <;> rfl
  | some as => rfl

theorem attributeRange_eq (hid : id < f.size) (key : String) :
    f.attributeRange id key = .ok ((f.store id).sourceRange key) := by
  obtain ⟨n, hn, hfind⟩ := find_of_lt hid
  rw [attributeRange, Forest.attributes, store_of_find hfind]
  cases hattributes : n.attributes? with
  | none =>
    simp only [bind, Except.bind, pure, Except.pure, hfind, hattributes]
    rfl
  | some as =>
    simp only [bind, Except.bind, pure, Except.pure, hfind, hattributes, Option.getD_some]

end Forest

section Edits

variable {f : Forest} {id : NodeId} {key : String}

theorem attributes_ok (h : (f.childList? id).isSome) :
    f.attributes id = .ok ((f.get? id).bind Node.attributes?) := by
  obtain ⟨l, hl⟩ := Option.isSome_iff_exists.mp h
  obtain ⟨n, hn, hfind⟩ := find_of_lt (lt_of_childList? hl)
  rw [Forest.attributes, hfind, hn]
  rfl

theorem openAttributes_ok (h : (f.childList? id).isSome) :
    openAttributes id f = .ok (f.store id) (f.changeAttributes id fun as => as) := by
  have hopen : ((f.changeAttributes id fun as => as).childList? id).isSome := by simpa using h
  rw [openAttributes, bind_ok (requireContainer_ok h), bind_ok modify_eq,
    bind_ok (ask_ok (attributes_ok hopen))]
  exact congrArg (EStateM.Result.ok · _) (store_changeAttributes h)

theorem removeAttribute_ok (h : (f.childList? id).isSome) (hkey : isHiddenKey key = false) :
    removeAttribute id key f = .ok () (f.changeExisting id (·.remove .anyCase key)) := by
  obtain ⟨l, hl⟩ := Option.isSome_iff_exists.mp h
  obtain ⟨n, _, hfind⟩ := find_of_lt (lt_of_childList? hl)
  rw [removeAttribute, if_neg (by simp [hkey]), bind_ok (ask_ok hfind), modify_eq]

theorem clearAttributes_ok (h : (f.childList? id).isSome) :
    clearAttributes id f = .ok () (f.changeExisting id Attributes.clear) := by
  obtain ⟨l, hl⟩ := Option.isSome_iff_exists.mp h
  obtain ⟨n, _, hfind⟩ := find_of_lt (lt_of_childList? hl)
  rw [clearAttributes, bind_ok (ask_ok hfind), modify_eq]

theorem setUserData_ok (h : (f.childList? id).isSome) (key : String) (value : Option Datum) :
    setUserData id key value f = .ok () (f.changeAttributes id (·.setUserData key value)) ∨
      setUserData id key value f = .ok () f ∧ value = none ∧
        (f.get? id).bind Node.attributes? = none := by
  rw [setUserData]
  cases value with
  | some v =>
    refine .inl ?_
    rw [bind_ok (ask_ok (attributes_ok h))]
    show (requireContainer id >>= fun _ => _) f = _
    rw [bind_ok (requireContainer_ok h), modify_eq]
  | none =>
    rw [bind_ok (ask_ok (attributes_ok h))]
    cases hstore : (f.get? id).bind Node.attributes? with
    | none => exact .inr ⟨rfl, rfl, rfl⟩
    | some as =>
      refine .inl ?_
      show (requireContainer id >>= fun _ => _) f = _
      rw [bind_ok (requireContainer_ok h), modify_eq]

end Edits

end MarkupForest
