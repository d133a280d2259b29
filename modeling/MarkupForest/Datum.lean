namespace MarkupForest

structure Dict (α : Type) where
  entries : List (String × α)
  rising : entries.Pairwise fun x y => x.1 < y.1
  deriving DecidableEq, Repr

namespace Dict

variable {α : Type} {d e : Dict α} {key other : String} {value : α} {x : String × α}
  {es : List (String × α)}

def empty : Dict α := ⟨[], .nil⟩

def find (key : String) : List (String × α) → Option α
  | [] => none
  | (k, a) :: es => if k = key then some a else find key es

def get? (d : Dict α) (key : String) : Option α := find key d.entries

def put (key : String) (value : α) : List (String × α) → List (String × α)
  | [] => [(key, value)]
  | (k, a) :: es =>
    if k = key then (k, value) :: es
    else if key < k then (key, value) :: (k, a) :: es
    else (k, a) :: put key value es

theorem mem_put (h : x ∈ put key value es) : x = (key, value) ∨ x ∈ es := by
  induction es with
  | nil => exact .inl (List.mem_singleton.mp h)
  | cons e es ih =>
    obtain ⟨k, a⟩ := e
    rw [put] at h
    split at h
    · next hk =>
      rcases List.mem_cons.mp h with rfl | hx
      · exact .inl (by rw [hk])
      · exact .inr (List.mem_cons_of_mem _ hx)
    · split at h
      · exact List.mem_cons.mp h
      · rcases List.mem_cons.mp h with rfl | hx
        · exact .inr List.mem_cons_self
        · exact (ih hx).imp_right (List.mem_cons_of_mem _)

theorem pairwise_put (h : es.Pairwise fun x y => x.1 < y.1) :
    (put key value es).Pairwise fun x y => x.1 < y.1 := by
  induction es with
  | nil => exact List.pairwise_singleton _ _
  | cons e es ih =>
    obtain ⟨k, a⟩ := e
    obtain ⟨hall, hes⟩ := List.pairwise_cons.mp h
    rw [put]
    split
    · exact .cons hall hes
    · next hne =>
      split
      · next hlt =>
        refine .cons (fun x hx => ?_) h
        rcases List.mem_cons.mp hx with rfl | hx
        · exact hlt
        · exact String.lt_trans hlt (hall x hx)
      · next hge =>
        have hlt : k < key := Decidable.byContradiction fun hle =>
          hne (String.le_antisymm (String.not_lt.mp hge) (String.not_lt.mp hle))
        refine .cons (fun x hx => ?_) (ih hes)
        rcases mem_put hx with rfl | hx
        · exact hlt
        · exact hall x hx

def insert (d : Dict α) (key : String) (value : α) : Dict α :=
  ⟨put key value d.entries, pairwise_put d.rising⟩

def erase (d : Dict α) (key : String) : Dict α :=
  ⟨d.entries.filter (·.1 != key), d.rising.filter _⟩

def ofList (l : List (String × α)) : Dict α := l.foldl (fun d x => d.insert x.1 x.2) empty

@[simp] theorem get?_empty (key : String) : (empty : Dict α).get? key = none := rfl

theorem find_put (key other : String) (value : α) (es : List (String × α)) :
    find other (put key value es) = if key = other then some value else find other es := by
  induction es with
  | nil => simp [put, find]
  | cons e es ih =>
      obtain ⟨k, a⟩ := e
      unfold put
      split
      · next h => subst h; by_cases hk : k = other <;> simp [find, hk]
      · split
        · simp [find]
        · next h _ =>
            by_cases hk : k = other
            · have : key ≠ other := fun e => h (hk.trans e.symm)
              simp [find, hk, this]
            · simp [find, hk, ih]

theorem get?_insert (d : Dict α) (key other : String) (value : α) :
    (d.insert key value).get? other = if key = other then some value else d.get? other :=
  find_put key other value d.entries

theorem get?_erase (d : Dict α) (key other : String) :
    (d.erase key).get? other = if key = other then none else d.get? other := by
  simp only [get?, erase]
  induction d.entries with
  | nil => simp [find]
  | cons e es ih =>
      obtain ⟨k, a⟩ := e
      by_cases hk : k = key
      · subst hk
        by_cases ho : k = other <;> simp_all [find]
      · by_cases ho : k = other
        · subst ho; simp [hk, find, Ne.symm hk]
        · simp_all [find]

end Dict

instance reprDyadic : Repr Dyadic := ⟨fun d n => Repr.addAppParen (repr d.toRat) n⟩

inductive Number where
  | int (n : Int)
  | float (d : Dyadic)
  deriving DecidableEq, Repr

inductive DatumTree where
  | null
  | bool (b : Bool)
  | number (n : Number)
  | text (s : String)
  | list (items : List DatumTree)
  | record (fields : List (String × DatumTree))
  deriving Repr

namespace DatumTree

mutual

def same : DatumTree → DatumTree → Bool
  | .null, .null => true
  | .bool a, .bool b => a == b
  | .number a, .number b => a == b
  | .text a, .text b => a == b
  | .list as, .list bs => sameItems as bs
  | .record as, .record bs => sameFields as bs
  | _, _ => false

def sameItems : List DatumTree → List DatumTree → Bool
  | [], [] => true
  | a :: as, b :: bs => same a b && sameItems as bs
  | _, _ => false

def sameFields : List (String × DatumTree) → List (String × DatumTree) → Bool
  | [], [] => true
  | (k, a) :: as, (l, b) :: bs => k == l && same a b && sameFields as bs
  | _, _ => false

end

mutual

theorem eq_of_same : (a b : DatumTree) → same a b = true → a = b
  | .null, b, h => by cases b <;> simp_all [same]
  | .bool _, b, h => by cases b <;> simp_all [same]
  | .number _, b, h => by cases b <;> simp_all [same]
  | .text _, b, h => by cases b <;> simp_all [same]
  | .list as, b, h => by
      cases b with
      | list bs => rw [eq_of_sameItems as bs (by simpa [same] using h)]
      | _ => simp [same] at h
  | .record as, b, h => by
      cases b with
      | record bs => rw [eq_of_sameFields as bs (by simpa [same] using h)]
      | _ => simp [same] at h

theorem eq_of_sameItems : (as bs : List DatumTree) → sameItems as bs = true → as = bs
  | [], bs, h => by cases bs <;> simp_all [sameItems]
  | a :: as, bs, h => by
      cases bs with
      | nil => simp [sameItems] at h
      | cons b bs =>
          rw [sameItems, Bool.and_eq_true] at h
          rw [eq_of_same a b h.1, eq_of_sameItems as bs h.2]

theorem eq_of_sameFields : (as bs : List (String × DatumTree)) → sameFields as bs = true → as = bs
  | [], bs, h => by cases bs <;> simp_all [sameFields]
  | (k, a) :: as, bs, h => by
      cases bs with
      | nil => simp [sameFields] at h
      | cons b bs =>
          obtain ⟨l, b⟩ := b
          rw [sameFields, Bool.and_eq_true, Bool.and_eq_true] at h
          rw [eq_of_beq h.1.1, eq_of_same a b h.1.2, eq_of_sameFields as bs h.2]

end

mutual

theorem same_self : (a : DatumTree) → same a a = true
  | .null | .bool _ | .number _ | .text _ => by simp [same]
  | .list as => by rw [same]; exact sameItems_self as
  | .record as => by rw [same]; exact sameFields_self as

theorem sameItems_self : (as : List DatumTree) → sameItems as as = true
  | [] => rfl
  | a :: as => by rw [sameItems, same_self a, sameItems_self as]; rfl

theorem sameFields_self : (as : List (String × DatumTree)) → sameFields as as = true
  | [] => rfl
  | (k, a) :: as => by rw [sameFields, same_self a, sameFields_self as]; simp

end

instance : DecidableEq DatumTree := fun a b =>
  decidable_of_iff (same a b = true) ⟨eq_of_same a b, fun h => h ▸ same_self a⟩

mutual

def inOrder : DatumTree → Bool
  | .list items => itemsInOrder items
  | .record fields => decide (fields.Pairwise fun x y => x.1 < y.1) && fieldsInOrder fields
  | _ => true

def itemsInOrder : List DatumTree → Bool
  | [] => true
  | t :: ts => inOrder t && itemsInOrder ts

def fieldsInOrder : List (String × DatumTree) → Bool
  | [] => true
  | (_, t) :: fs => inOrder t && fieldsInOrder fs

end

end DatumTree

structure Datum where
  tree : DatumTree
  inOrder : tree.inOrder = true
  deriving DecidableEq, Repr

namespace Datum

def null : Datum := ⟨.null, rfl⟩

def bool (b : Bool) : Datum := ⟨.bool b, rfl⟩

def number (n : Number) : Datum := ⟨.number n, rfl⟩

def int (n : Int) : Datum := number (.int n)

def text (s : String) : Datum := ⟨.text s, rfl⟩

theorem itemsInOrder_map (items : List Datum) :
    DatumTree.itemsInOrder (items.map tree) = true := by
  induction items with
  | nil => rfl
  | cons d ds ih =>
    rw [List.map_cons, DatumTree.itemsInOrder, d.inOrder, ih]
    rfl

def list (items : List Datum) : Datum := ⟨.list (items.map tree), itemsInOrder_map items⟩

theorem fieldsInOrder_map (fields : List (String × Datum)) :
    DatumTree.fieldsInOrder (fields.map fun x => (x.1, x.2.tree)) = true := by
  induction fields with
  | nil => rfl
  | cons x xs ih =>
    rw [List.map_cons, DatumTree.fieldsInOrder, x.2.inOrder, ih]
    rfl

def record (fields : Dict Datum) : Datum where
  tree := .record (fields.entries.map fun x => (x.1, x.2.tree))
  inOrder := by
    rw [DatumTree.inOrder, fieldsInOrder_map, Bool.and_true, decide_eq_true_iff, List.pairwise_map]
    exact fields.rising

instance : Inhabited Datum := ⟨null⟩

end Datum

end MarkupForest
