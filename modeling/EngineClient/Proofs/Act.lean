import EngineClient.World
import Mathlib.Order.Defs.Unbundled

/-!
# Theory of acts

An act is taken apart at its first step, and a relation between worlds that is reflexive
and transitive is carried along an act from each of its steps to the whole. Such a
relation says what an act leaves alone, whatever comes of it.
-/

namespace EngineClient
namespace Act

variable {α β γ : Type}

/-!
## Single steps
-/

@[simp] theorem pure_run (a : α) (w : World) : (pure a : Act α) w = .ok a w := rfl

@[simp] theorem throw_run (f : Fault) (w : World) : (throw f : Act α) w = .error f w := rfl

@[simp] theorem get_run (w : World) : (get : Act World) w = .ok w w := rfl

@[simp] theorem set_run (w w' : World) : (set w' : Act PUnit) w = .ok () w' := rfl

@[simp] theorem modify_run (g : World → World) (w : World) :
    (modify g : Act PUnit) w = .ok () (g w) := rfl

@[simp] theorem client_run (w : World) : client w = .ok w.client w := rfl

@[simp] theorem disk_run (w : World) : disk w = .ok w.disk w := rfl

/-!
## Sequences
-/

theorem bind_run (x : Act α) (g : α → Act β) (w : World) :
    (x >>= g) w =
      match x w with
      | .ok a w₁ => g a w₁
      | .error f w₁ => .error f w₁ := by
  change EStateM.bind x g w = _
  unfold EStateM.bind
  cases x w <;> rfl

theorem bind_run_of_ok {x : Act α} {g : α → Act β} {w w₁ : World} {a : α}
    (h : x w = .ok a w₁) : (x >>= g) w = g a w₁ := by
  rw [bind_run, h]

theorem bind_run_of_error {x : Act α} {g : α → Act β} {w w₁ : World} {f : Fault}
    (h : x w = .error f w₁) : (x >>= g) w = .error f w₁ := by
  rw [bind_run, h]

theorem bind_eq_ok {x : Act α} {g : α → Act β} {w w' : World} {b : β}
    (h : (x >>= g) w = .ok b w') : exists a w₁, x w = .ok a w₁ ∧ g a w₁ = .ok b w' := by
  rw [bind_run] at h
  cases hx : x w with
  | ok a w₁ =>
      rw [hx] at h
      exact ⟨a, w₁, rfl, h⟩
  | error f w₁ =>
      rw [hx] at h
      cases h

theorem bind_eq_error {x : Act α} {g : α → Act β} {w w' : World} {f : Fault}
    (h : (x >>= g) w = .error f w') :
    x w = .error f w' ∨ exists a w₁, x w = .ok a w₁ ∧ g a w₁ = .error f w' := by
  rw [bind_run] at h
  cases hx : x w with
  | ok a w₁ =>
      rw [hx] at h
      exact Or.inr ⟨a, w₁, rfl, h⟩
  | error e w₁ =>
      rw [hx] at h
      cases h
      exact Or.inl rfl

theorem ofExcept_eq_ok {r : Except Fault α} {w w' : World} {a : α}
    (h : ofExcept r w = .ok a w') : r = .ok a ∧ w' = w := by
  cases r with
  | ok b =>
      cases h
      exact ⟨rfl, rfl⟩
  | error f =>
      cases h

theorem ofExcept_eq_error {r : Except Fault α} {w w' : World} {f : Fault}
    (h : ofExcept r w = .error f w') : r = .error f ∧ w' = w := by
  cases r with
  | ok b =>
      cases h
  | error e =>
      cases h
      exact ⟨rfl, rfl⟩

/-!
## The world behind an act
-/

/-- The world that an act leaves, whatever comes of it. -/
def after (x : Act α) (w : World) : World :=
  match x w with
  | .ok _ w' => w'
  | .error _ w' => w'

theorem after_of_ok {x : Act α} {w w' : World} {a : α} (h : x w = .ok a w') :
    x.after w = w' := by
  unfold after
  rw [h]

theorem after_of_error {x : Act α} {w w' : World} {f : Fault} (h : x w = .error f w') :
    x.after w = w' := by
  unfold after
  rw [h]

theorem after_of_run_eq {x y : Act α} {w w₁ : World} (h : x w = y w₁) :
    x.after w = y.after w₁ := by
  unfold after
  rw [h]

@[simp] theorem after_ofExcept (r : Except Fault α) (w : World) : (ofExcept r).after w = w := by
  cases r <;> rfl

theorem after_attempt (x : Act α) (w : World) : (attempt x).after w = x.after w := by
  unfold after attempt
  cases x w <;> rfl

theorem after_bind_of_ok {x : Act α} {g : α → Act β} {w w₁ : World} {a : α}
    (h : x w = .ok a w₁) : (x >>= g).after w = (g a).after w₁ := by
  unfold after
  rw [bind_run_of_ok h]

theorem after_bind_of_error {x : Act α} {g : α → Act β} {w w₁ : World} {f : Fault}
    (h : x w = .error f w₁) : (x >>= g).after w = w₁ :=
  after_of_error (bind_run_of_error h)

theorem after_bind_of_idle {x : Act α} {g : α → Act β}
    (hidle : forall a w, (g a).after w = w) (w : World) : (x >>= g).after w = x.after w := by
  cases hx : x w with
  | ok a w₁ =>
      rw [after_bind_of_ok hx, after_of_ok hx, hidle]
  | error f w₁ =>
      rw [after_bind_of_error hx, after_of_error hx]

/-!
## Relations along acts
-/

/-- An act takes every world to one that stands in a relation to it. -/
def Moves (R : World → World → Prop) (x : Act α) : Prop :=
  forall w, R w (x.after w)

def Agree (part : World → γ) (w w' : World) : Prop :=
  part w' = part w

instance (part : World → γ) : IsPreorder World (Agree part) where
  refl _ := rfl
  trans _ _ _ h h' := Eq.trans h' h

theorem Agree.factor {part : World → World} {w w' : World} (h : Agree part w w')
    (k : World → γ) (hk : forall v, k (part v) = k v) : k w' = k w := by
  rw [← hk w', ← hk w]
  exact congrArg k h

/-- A property that is kept, and a relation between the worlds that have it. -/
def Within (P : World → Prop) (R : World → World → Prop) (w w' : World) : Prop :=
  P w -> P w' ∧ R w w'

instance (P : World → Prop) (R : World → World → Prop) [IsPreorder World R] :
    IsPreorder World (Within P R) where
  refl w h := ⟨h, refl_of R w⟩
  trans _ _ _ h h' hP :=
    have h₁ := h hP
    have h₂ := h' h₁.1
    ⟨h₂.1, trans_of R h₁.2 h₂.2⟩

namespace Moves

variable {R S : World → World → Prop} {x : Act α} {g : α → Act β}

theorem of_ok (hx : x.Moves R) {w w' : World} {a : α} (h : x w = .ok a w') : R w w' := by
  have hw := hx w
  rwa [after_of_ok h] at hw

theorem of_error (hx : x.Moves R) {w w' : World} {f : Fault} (h : x w = .error f w') :
    R w w' := by
  have hw := hx w
  rwa [after_of_error h] at hw

theorem mono (hx : x.Moves R) (h : forall w w', R w w' -> S w w') : x.Moves S :=
  fun w => h w _ (hx w)

theorem attempt (hx : x.Moves R) : (attempt x).Moves R := by
  intro w
  rw [after_attempt]
  exact hx w

variable [IsPreorder World R]

theorem pure (a : α) : (pure a : Act α).Moves R :=
  fun w => refl_of R w

theorem throw (f : Fault) : (throw f : Act α).Moves R :=
  fun w => refl_of R w

theorem get : (get : Act World).Moves R :=
  fun w => refl_of R w

theorem client : client.Moves R :=
  fun w => refl_of R w

theorem disk : disk.Moves R :=
  fun w => refl_of R w

theorem ofExcept (r : Except Fault α) : (ofExcept r).Moves R := by
  cases r with
  | ok a => exact pure a
  | error f => exact throw f

theorem bind (hx : x.Moves R) (hg : forall a, (g a).Moves R) : (x >>= g).Moves R := by
  intro w
  cases h : x w with
  | ok a w₁ =>
      rw [after_bind_of_ok h]
      exact trans_of R (hx.of_ok h) (hg a w₁)
  | error f w₁ =>
      rw [after_bind_of_error h]
      exact hx.of_error h

end Moves

/-- A part that the rest of an act leaves alone is settled by its first step. -/
theorem part_after_bind (part : World → γ) (x : Act α) {g : α → Act β}
    (hg : forall a, (g a).Moves (Agree part)) (w : World) :
    part ((x >>= g).after w) = part (x.after w) := by
  cases h : x w with
  | ok a w₁ =>
      rw [after_bind_of_ok h, after_of_ok h]
      exact hg a w₁
  | error f w₁ =>
      rw [after_bind_of_error h, after_of_error h]

end Act
end EngineClient
