import DocPages.Keyed
import Mathlib.Data.List.Forall2

namespace DocPages

section monad

variable {m : Type → Type} [Monad m] [LawfulMonad m] {α β γ : Type}

theorem mapM_congr {f g : α → m β} {l : List α} (h : ∀ a ∈ l, f a = g a) :
    l.mapM f = l.mapM g := by
  induction l with
  | nil => rfl
  | cons a rest ih =>
      rw [List.forall_mem_cons] at h
      rw [List.mapM_cons, List.mapM_cons, h.1, ih h.2]

omit [LawfulMonad m] in
theorem forM_congr {f g : α → m PUnit} {l : List α} (h : ∀ a ∈ l, f a = g a) :
    l.forM f = l.forM g := by
  induction l with
  | nil => rfl
  | cons a rest ih =>
      rw [List.forall_mem_cons] at h
      rw [List.forM, List.forM, h.1, ih h.2]

theorem mapM_map_result (g : β → γ) (f : α → m β) (l : List α) :
    (l.mapM fun a => g <$> f a) = List.map g <$> l.mapM f := by
  induction l with
  | nil => simp
  | cons a rest ih =>
      simp only [List.mapM_cons, ih, bind_map_left, map_bind, map_pure, List.map_cons]

theorem foldlM_map_result (step : γ → β → γ) (f : α → m β) (l : List α) (start : γ) :
    (l.foldlM (fun state a => step state <$> f a) start) =
      (fun made => made.foldl step start) <$> l.mapM f := by
  induction l generalizing start with
  | nil => simp
  | cons a rest ih =>
      rw [List.foldlM_cons, List.mapM_cons, bind_map_left, map_bind]
      simp only [ih, bind_pure_comp, Functor.map_map, List.foldl_cons]

end monad

theorem bind_eq_ok {ε α β : Type} {x : Except ε α} {f : α → Except ε β} {b : β} :
    x >>= f = .ok b ↔ ∃ a, x = .ok a ∧ f a = .ok b := by
  cases x with
  | error e => exact ⟨nofun, fun ⟨_, h, _⟩ => nomatch h⟩
  | ok a => exact ⟨fun h => ⟨a, rfl, h⟩, fun ⟨_, h, hb⟩ => Except.ok.inj h ▸ hb⟩

theorem map_eq_ok {ε α β : Type} {x : Except ε α} {f : α → β} {b : β} :
    f <$> x = .ok b ↔ ∃ a, x = .ok a ∧ f a = b := by
  cases x with
  | error e => exact ⟨nofun, fun ⟨_, h, _⟩ => nomatch h⟩
  | ok a => exact ⟨fun h => ⟨a, rfl, Except.ok.inj h⟩, fun ⟨_, h, hb⟩ => by
      rw [← hb, Except.ok.inj h]
      rfl⟩

theorem map_eq_error {ε α β : Type} {x : Except ε α} {f : α → β} {e : ε} :
    f <$> x = .error e ↔ x = .error e := by
  cases x with
  | error e' => exact ⟨fun h => congrArg _ (Except.error.inj h), fun h => congrArg (f <$> ·) h⟩
  | ok a => exact ⟨nofun, nofun⟩

theorem bind_eq_error {ε α β : Type} {x : Except ε α} {f : α → Except ε β} {e : ε} :
    x >>= f = .error e ↔ x = .error e ∨ ∃ a, x = .ok a ∧ f a = .error e := by
  cases x with
  | error e' => exact ⟨fun h => .inl (congrArg _ (Except.error.inj h)), fun
      | .inl h => congrArg _ (Except.error.inj h)
      | .inr ⟨_, h, _⟩ => nomatch h⟩
  | ok a => exact ⟨fun h => .inr ⟨a, rfl, h⟩, fun
      | .inl h => nomatch h
      | .inr ⟨_, h, hb⟩ => Except.ok.inj h ▸ hb⟩

/-- Computations that agree up to `view` go on alike if what follows looks no further. -/
theorem bind_congr_of_view {ε α β γ : Type} {x y : Except ε α} {view : α → β}
    (h : view <$> x = view <$> y) {f g : α → Except ε γ}
    (hfg : ∀ a b, view a = view b → f a = g b) : x >>= f = y >>= g := by
  cases x with
  | error e =>
      cases y with
      | error e' => exact congrArg Except.error (Except.error.inj h)
      | ok b => cases h
  | ok a =>
      cases y with
      | error e => cases h
      | ok b => exact hfg a b (Except.ok.inj h)

theorem map_congr_of_view {ε α β γ : Type} {x y : Except ε α} {view : α → β}
    (h : view <$> x = view <$> y) {f g : α → γ} (hfg : ∀ a b, view a = view b → f a = g b) :
    f <$> x = g <$> y := by
  rw [← bind_pure_comp, ← bind_pure_comp]
  exact bind_congr_of_view h fun a b hab => congrArg Except.ok (hfg a b hab)

theorem exists_of_mem_mapM_eq_ok {ε α β : Type} {f : α → Except ε β} {l : List α} {made : List β}
    (h : l.mapM f = .ok made) {b : β} (hb : b ∈ made) : ∃ a ∈ l, f a = .ok b := by
  induction l generalizing made with
  | nil =>
      obtain rfl := Except.ok.inj h
      exact absurd hb List.not_mem_nil
  | cons a rest ih =>
      rw [List.mapM_cons] at h
      obtain ⟨first, hfirst, h⟩ := bind_eq_ok.mp h
      obtain ⟨others, hothers, h⟩ := bind_eq_ok.mp h
      obtain rfl := Except.ok.inj h
      rcases List.mem_cons.mp hb with rfl | hb
      · exact ⟨a, List.mem_cons_self, hfirst⟩
      · obtain ⟨c, hc, hmade⟩ := ih hothers hb
        exact ⟨c, List.mem_cons_of_mem a hc, hmade⟩

theorem mapM_eq_ok {ε α β : Type} {f : α → Except ε β} {g : α → β} {l : List α}
    (h : ∀ a ∈ l, f a = .ok (g a)) : l.mapM f = .ok (l.map g) := by
  induction l with
  | nil => rfl
  | cons a rest ih =>
      rw [List.mapM_cons, h a List.mem_cons_self, ih fun b hb => h b (List.mem_cons_of_mem a hb)]
      rfl

theorem mapM_eq_findSome? {ε α β δ : Type} {f : α → Except ε β} {fault : α → Option δ}
    {error : δ → ε} {g : α → β} {l : List α}
    (h : ∀ a ∈ l, f a = (fault a).elim (.ok (g a)) fun d => .error (error d)) :
    l.mapM f = (l.findSome? fault).elim (.ok (l.map g)) fun d => .error (error d) := by
  induction l with
  | nil => rfl
  | cons a rest ih =>
      rw [List.forall_mem_cons] at h
      rw [List.mapM_cons, h.1, ih h.2, List.findSome?_cons]
      cases fault a with
      | some d => rfl
      | none =>
          cases rest.findSome? fault with
          | some d => rfl
          | none => rfl

theorem exists_mapM_eq_ok {ε α β : Type} {f : α → Except ε β} {R : α → β → Prop} {l : List α}
    (h : ∀ a ∈ l, ∃ b, f a = .ok b ∧ R a b) :
    ∃ made, l.mapM f = .ok made ∧ List.Forall₂ R l made := by
  induction l with
  | nil => exact ⟨[], rfl, .nil⟩
  | cons a rest ih =>
      rw [List.forall_mem_cons] at h
      obtain ⟨b, hb, hab⟩ := h.1
      obtain ⟨made, hmade, hrest⟩ := ih h.2
      refine ⟨b :: made, ?_, .cons hab hrest⟩
      rw [List.mapM_cons, hb, hmade]
      rfl

theorem map_of_mapM_eq_ok {ε α β γ : Type} {f : α → Except ε β} {g : β → γ} {k : α → γ}
    {l : List α} {made : List β} (hk : ∀ a b, f a = .ok b → g b = k a)
    (h : l.mapM f = .ok made) : made.map g = l.map k := by
  induction l generalizing made with
  | nil =>
      obtain rfl := Except.ok.inj h
      rfl
  | cons a rest ih =>
      rw [List.mapM_cons] at h
      obtain ⟨first, hfirst, h⟩ := bind_eq_ok.mp h
      obtain ⟨others, hothers, h⟩ := bind_eq_ok.mp h
      obtain rfl := Except.ok.inj h
      rw [List.map_cons, List.map_cons, hk a first hfirst, ih hothers]

theorem length_of_mapM_eq_ok {ε α β : Type} {f : α → Except ε β} {l : List α} {made : List β}
    (h : l.mapM f = .ok made) : made.length = l.length := by
  have hmap := map_of_mapM_eq_ok (g := fun _ => ()) (k := fun _ => ()) (fun _ _ _ => rfl) h
  rw [← List.length_map (f := fun _ => ()), hmap, List.length_map]

theorem mapM_swap_eq_ok {ε α β : Type} {f : α → Except ε β} {front back : List α} {a b : α}
    {made : List β} (h : (front ++ a :: b :: back).mapM f = .ok made) :
    ∃ left x y right, made = left ++ x :: y :: right ∧ f a = .ok x ∧ f b = .ok y ∧
      (front ++ b :: a :: back).mapM f = .ok (left ++ y :: x :: right) := by
  rw [List.mapM_append] at h
  obtain ⟨left, hleft, h⟩ := bind_eq_ok.mp h
  obtain ⟨tail, htail, h⟩ := bind_eq_ok.mp h
  obtain rfl := Except.ok.inj h
  rw [List.mapM_cons] at htail
  obtain ⟨x, hx, htail⟩ := bind_eq_ok.mp htail
  obtain ⟨others, hothers, htail⟩ := bind_eq_ok.mp htail
  obtain rfl := Except.ok.inj htail
  rw [List.mapM_cons] at hothers
  obtain ⟨y, hy, hothers⟩ := bind_eq_ok.mp hothers
  obtain ⟨right, hright, hothers⟩ := bind_eq_ok.mp hothers
  obtain rfl := Except.ok.inj hothers
  refine ⟨left, x, y, right, rfl, hx, hy, ?_⟩
  rw [List.mapM_append, List.mapM_cons, List.mapM_cons, hleft, hx, hy, hright]
  rfl

theorem mapM_replace_eq_ok {ε α β : Type} {f : α → Except ε β} {front back : List α} {a b : α}
    (hab : ∀ c, f a = .ok c → f b = .ok c) {made : List β}
    (h : (front ++ a :: back).mapM f = .ok made) : (front ++ b :: back).mapM f = .ok made := by
  rw [List.mapM_append, List.mapM_cons] at h ⊢
  obtain ⟨left, hleft, h⟩ := bind_eq_ok.mp h
  obtain ⟨tail, htail, h⟩ := bind_eq_ok.mp h
  obtain ⟨c, hc, htail⟩ := bind_eq_ok.mp htail
  rw [hleft, hab c hc]
  exact bind_eq_ok.mpr ⟨left, rfl, bind_eq_ok.mpr ⟨tail, htail, h⟩⟩

theorem mapM_eq_error_iff {ε α β : Type} {f : α → Except ε β} {l : List α} {e : ε} :
    l.mapM f = .error e ↔ ∃ front a back, l = front ++ a :: back ∧
      (∀ b ∈ front, ∃ c, f b = .ok c) ∧ f a = .error e := by
  constructor
  · intro h
    induction l with
    | nil => cases h
    | cons a rest ih =>
        rw [List.mapM_cons] at h
        rcases bind_eq_error.mp h with hfirst | ⟨first, hfirst, h⟩
        · exact ⟨[], a, rest, rfl, List.forall_mem_nil _, hfirst⟩
        · rcases bind_eq_error.mp h with hrest | ⟨others, _, h⟩
          · obtain ⟨front, b, back, rfl, hfront, hb⟩ := ih hrest
            exact ⟨a :: front, b, back, rfl,
              List.forall_mem_cons.mpr ⟨⟨first, hfirst⟩, hfront⟩, hb⟩
          · cases h
  · rintro ⟨front, a, back, rfl, hfront, ha⟩
    have hmade : ∀ b ∈ front, ∃ c, f b = .ok c ∧ True := by simpa using hfront
    obtain ⟨made, hmade, _⟩ := exists_mapM_eq_ok hmade
    rw [List.mapM_append, hmade, List.mapM_cons, ha]
    rfl

theorem exists_of_mapM_eq_error {ε α β : Type} {f : α → Except ε β} {l : List α} {e : ε}
    (h : l.mapM f = .error e) : ∃ a ∈ l, f a = .error e := by
  obtain ⟨front, a, back, rfl, _, ha⟩ := mapM_eq_error_iff.mp h
  exact ⟨a, List.mem_append_right front List.mem_cons_self, ha⟩

end DocPages
