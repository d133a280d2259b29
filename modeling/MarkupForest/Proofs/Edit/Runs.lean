import MarkupForest.Forest.Basic

namespace MarkupForest.Edit

variable {α β : Type} {e : Edit α} {k : α → Edit β} {f g : Forest} {a : α} {x : TreeError}

def after (e : Edit α) (f : Forest) : Forest :=
  match e f with
  | .ok _ g | .error _ g => g

def answer (e : Edit α) (f : Forest) : Except TreeError α :=
  match e f with
  | .ok a _ => .ok a
  | .error x _ => .error x

theorem after_ok (h : e f = .ok a g) : e.after f = g := by rw [after, h]

theorem after_error (h : e f = .error x g) : e.after f = g := by rw [after, h]

theorem answer_ok (h : e f = .ok a g) : e.answer f = .ok a := by rw [answer, h]

theorem answer_error (h : e f = .error x g) : e.answer f = .error x := by rw [answer, h]

section Sequences

variable {ε τ : Type} {e : EStateM ε τ α} {k : α → EStateM ε τ β} {s t : τ} {b : β} {err : ε}

theorem bind_ok (h : e s = .ok a t) : (e >>= k) s = k a t := by
  show EStateM.bind e k s = _
  rw [EStateM.bind, h]

theorem bind_error (h : e s = .error err t) : (e >>= k) s = .error err t := by
  show EStateM.bind e k s = _
  rw [EStateM.bind, h]

theorem ok_of_bind (h : (e >>= k) s = .ok b t) : ∃ a u, e s = .ok a u ∧ k a u = .ok b t := by
  cases he : e s with
  | ok a u =>
    rw [bind_ok he] at h
    exact ⟨a, u, rfl, h⟩
  | error y u =>
    rw [bind_error he] at h
    cases h

theorem error_of_bind (h : (e >>= k) s = .error err t) :
    e s = .error err t ∨ ∃ a u, e s = .ok a u ∧ k a u = .error err t := by
  cases he : e s with
  | ok a u =>
    rw [bind_ok he] at h
    exact .inr ⟨a, u, rfl, h⟩
  | error y u =>
    rw [bind_error he] at h
    cases h
    exact .inl rfl

theorem get_eq : (get : EStateM ε τ τ) s = .ok s s := rfl

theorem map_ok {m : α → β} (h : e s = .ok a t) : (m <$> e) s = .ok (m a) t := by
  show EStateM.map m e s = _
  rw [EStateM.map, h]

theorem map_of_error {m : α → β} (h : e s = .error err t) : (m <$> e) s = .error err t := by
  show EStateM.map m e s = _
  rw [EStateM.map, h]

end Sequences

theorem map_error {m : α → β} (h : (m <$> e) f = .error x g) : e f = .error x g := by
  change EStateM.map m e f = _ at h
  unfold EStateM.map at h
  cases he : e f with
  | ok a k => simp [he] at h
  | error y k => simpa [he] using h

theorem after_map {m : α → β} : (m <$> e).after f = e.after f := by
  show after (EStateM.map m e) f = _
  unfold after EStateM.map
  cases e f <;> rfl

theorem answer_map {m : α → β} : (m <$> e).answer f = (e.answer f).map m := by
  show answer (EStateM.map m e) f = _
  unfold answer EStateM.map
  cases e f <;> rfl

theorem pure_eq : (pure a : Edit α) f = .ok a f := rfl

theorem modify_eq {m : Forest → Forest} : (modify m : Edit Unit) f = .ok () (m f) := rfl

theorem create_eq {n : Node} : create n f = .ok f.size (f.push n) := rfl

theorem forM_cons {t : α → Edit Unit} {as : List α} :
    (a :: as).forM t f = (t a >>= fun _ => as.forM t) f :=
  rfl

theorem ask_ok {q : Forest → Except TreeError α} (h : q f = .ok a) : ask q f = .ok a f := by
  rw [ask, h]

theorem ask_error {q : Forest → Except TreeError α} (h : q f = .error x) :
    ask q f = .error x f := by
  rw [ask, h]

theorem ask_eq_ok {q : Forest → Except TreeError α} (h : ask q f = .ok a g) :
    q f = .ok a ∧ g = f := by
  cases hq : q f with
  | ok b =>
    rw [ask_ok hq] at h
    cases h
    exact ⟨rfl, rfl⟩
  | error x =>
    rw [ask_error hq] at h
    cases h

theorem ask_bind {q : Forest → Except TreeError α} :
    (ask q >>= k) f = match q f with
      | .ok a => k a f
      | .error y => .error y f := by
  cases hq : q f with
  | ok a => rw [bind_ok (ask_ok hq)]
  | error y => rw [bind_error (ask_error hq)]

def checked (check : Except TreeError Unit) (a : α) (f g : Forest) :
    EStateM.Result TreeError Forest α :=
  match check with
  | .ok () => .ok a g
  | .error x => .error x f

end MarkupForest.Edit
