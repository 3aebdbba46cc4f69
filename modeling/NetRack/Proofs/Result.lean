import NetRack.Command.Outcome
import NetRack.Resolver.Argument
import NetRack.Topology.Propagation
import Mathlib.Data.List.Forall2

/-!
# What a computation comes to

A computation gives a value or fails with a cause.  `Meets allowed P x` says what is known of `x`
either way: its value, if it gives one, has the property `P`, and the cause of its failure, if it
fails, is an allowed one.  With no cause allowed the computation succeeds.

The rules follow the shape of a computation: what comes first is met before what is done with it.
-/

namespace NetRack

variable {α α' β γ ε ε' : Type}

/-- A value has the property, and a cause of failure is allowed. -/
def Meets (allowed : ε → Prop) (P : α → Prop) : Except ε α → Prop
  | .ok a => P a
  | .error e => allowed e

/-- No cause at all. -/
def never (_ : ε) : Prop := False

/-- The computation gives a value with the property. -/
abbrev Yields (P : α → Prop) (x : Except ε α) : Prop := Meets never P x

/-! ## Computations that succeed -/

@[simp] theorem ok_bind (a : α) (f : α → Except ε β) : (Except.ok a >>= f) = f a := rfl

@[simp] theorem error_bind (e : ε) (f : α → Except ε β) :
    (Except.error e >>= f : Except ε β) = .error e := rfl

@[simp] theorem map_ok (f : α → β) (a : α) : (f <$> (.ok a : Except ε α)) = .ok (f a) := rfl

@[simp] theorem map_error (f : α → β) (e : ε) : (f <$> (.error e : Except ε α)) = .error e := rfl

@[simp] theorem pure_eq_ok (a : α) : (pure a : Except ε α) = .ok a := rfl

@[simp] theorem liftM_ok (a : α) : (liftM (.ok a : Except Fault α) : Except Failure α) = .ok a := rfl

@[simp] theorem liftM_error (f : Fault) :
    (liftM (.error f : Except Fault α) : Except Failure α) = .error (.fault f) := rfl

theorem bind_eq_ok {x : Except ε α} {f : α → Except ε β} {b : β} :
    (x >>= f) = .ok b ↔ ∃ a, x = .ok a ∧ f a = .ok b := by
  cases x with
  | ok a => simp
  | error e => simp

theorem bind_eq_error {x : Except ε α} {f : α → Except ε β} {e : ε} :
    (x >>= f) = .error e ↔ x = .error e ∨ ∃ a, x = .ok a ∧ f a = .error e := by
  cases x with
  | ok a => simp
  | error e => simp

theorem map_eq_ok {x : Except ε α} {f : α → β} {b : β} : f <$> x = .ok b ↔ ∃ a, x = .ok a ∧ f a = b := by
  cases x with
  | ok a => simp
  | error e => simp

theorem map_eq_error {x : Except ε α} {f : α → β} {e : ε} : f <$> x = .error e ↔ x = .error e := by
  cases x with
  | ok a => simp
  | error e' => simp

/-- Computations whose values agree in some respect fail alike. -/
theorem map_eq_map {x : Except ε α} {x' : Except ε α'} {f : α → β} {f' : α' → β} (h : f <$> x = f' <$> x') :
    (∃ e, x = .error e ∧ x' = .error e) ∨ ∃ a a', x = .ok a ∧ x' = .ok a' ∧ f a = f' a' := by
  cases x with
  | error e => exact Or.inl ⟨e, rfl, map_eq_error.1 h.symm⟩
  | ok a =>
    obtain ⟨a', hx', ha⟩ := map_eq_ok.1 h.symm
    exact Or.inr ⟨a, a', rfl, hx', ha.symm⟩

/-- Computations that agree in some respect, whether they give a value or fail. -/
@[simp] theorem mapError_eq_ok {x : Except ε α} {f : ε → ε'} {a : α} : x.mapError f = .ok a ↔ x = .ok a := by
  cases x <;> simp [Except.mapError]

theorem mapError_map_eq {x : Except ε α} {x' : Except ε α'} {f : α → β} {f' : α' → β} {g : ε → ε'}
    (h : (f <$> x).mapError g = (f' <$> x').mapError g) :
    (∃ e e', x = .error e ∧ x' = .error e' ∧ g e = g e') ∨ ∃ a a', x = .ok a ∧ x' = .ok a' ∧ f a = f' a' := by
  cases x with
  | error e =>
    cases x' with
    | error e' => exact Or.inl ⟨e, e', rfl, rfl, Except.error.inj h⟩
    | ok a' => cases h
  | ok a =>
    cases x' with
    | error e' => cases h
    | ok a' => exact Or.inr ⟨a, a', rfl, rfl, Except.ok.inj h⟩

theorem liftM_eq_ok {x : Except Fault α} {a : α} :
    (liftM x : Except Failure α) = .ok a ↔ x = .ok a := by
  cases x <;> simp

theorem toOption_eq_some {x : Except ε α} {a : α} : x.toOption = some a ↔ x = .ok a := by
  cases x <;> simp [Except.toOption]

theorem need_eq_ok {name : String} {x : Option α} {a : α} : need name x = .ok a ↔ x = some a := by
  cases x <;> simp [need]

theorem exists_mem_iff_of_forall₂ {R : α → β → Prop} {xs : List α} {ys : List β}
    (h : List.Forall₂ R xs ys) {P : α → Prop} {Q : β → Prop} (hR : ∀ x y, R x y → (P x ↔ Q y)) :
    (∃ x ∈ xs, P x) ↔ ∃ y ∈ ys, Q y := by
  induction h with
  | nil => simp
  | cons hxy _ ih => simp [hR _ _ hxy, ih]

theorem mapM_ok {f : α → Except ε β} {g : α → β} {l : List α} (h : ∀ x ∈ l, f x = .ok (g x)) :
    l.mapM f = .ok (l.map g) := by
  induction l with
  | nil => rfl
  | cons x xs ih =>
    have hx := h x (by simp)
    have hxs := ih fun y hy => h y (by simp [hy])
    simp [List.mapM_cons, hx, hxs]

theorem mapM_congr {f g : α → Except ε β} {xs : List α} (h : ∀ x ∈ xs, f x = g x) :
    xs.mapM f = xs.mapM g := by
  induction xs with
  | nil => rfl
  | cons x xs ih =>
    rw [List.mapM_cons, List.mapM_cons, h x (by simp), ih fun y hy => h y (by simp [hy])]

/-- Elements that are listed with their keys. -/
theorem keyed_eq_ok {κ : Type} {f : α → Except ε κ} {xs : List α} {keyed : List (κ × α)}
    (h : (xs.mapM fun x => do return (← f x, x)) = .ok keyed) :
    keyed.map Prod.snd = xs ∧ ∀ k ∈ keyed, f k.2 = .ok k.1 := by
  induction xs generalizing keyed with
  | nil =>
    cases h
    exact ⟨rfl, nofun⟩
  | cons x xs ih =>
    rw [List.mapM_cons] at h
    obtain ⟨k, hk, h⟩ := bind_eq_ok.1 h
    obtain ⟨later, hlater, h⟩ := bind_eq_ok.1 h
    obtain ⟨key, hkey, heq⟩ := bind_eq_ok.1 hk
    cases h
    cases heq
    obtain ⟨same, keys⟩ := ih hlater
    exact ⟨by rw [List.map_cons, same], List.forall_mem_cons.2 ⟨hkey, keys⟩⟩

/-- Mapping what has been changed first is mapping, with what comes out changed. -/
theorem mapM_map_of {α' β' : Type} {f : α → Except ε β} {p : α' → Except ε β'} {g : α → α'} {q : β → β'}
    (h : ∀ x, p (g x) = q <$> f x) (xs : List α) : (xs.map g).mapM p = List.map q <$> xs.mapM f := by
  induction xs with
  | nil => rfl
  | cons x xs ih =>
    rw [List.map_cons, List.mapM_cons, List.mapM_cons, h, ih]
    cases f x with
    | error e => rfl
    | ok y => cases xs.mapM f <;> rfl

theorem forM_ok {f : α → Except ε PUnit} {xs : List α} (h : ∀ x ∈ xs, f x = .ok ()) :
    xs.forM f = .ok () := by
  induction xs with
  | nil => rfl
  | cons x xs ih =>
    have hx := h x (by simp)
    have hxs := ih fun y hy => h y (by simp [hy])
    show (f x >>= fun _ => xs.forM f) = .ok ()
    rw [hx, ok_bind, hxs]

/-! ## Rules -/

namespace Meets

variable {E : ε → Prop} {P Q : α → Prop}

@[simp] theorem ok_iff {a : α} : Meets E P (.ok a) ↔ P a := Iff.rfl

@[simp] theorem error_iff {e : ε} : Meets E P (.error e : Except ε α) ↔ E e := Iff.rfl

@[simp] theorem pure_iff {a : α} : Meets E P (pure a) ↔ P a := Iff.rfl

theorem bind {R : β → Prop} {x : Except ε α} {f : α → Except ε β} (hx : Meets E P x)
    (hf : ∀ a, P a → Meets E R (f a)) : Meets E R (x >>= f) := by
  cases x with
  | ok a => exact hf a hx
  | error e => exact hx

theorem mono {E' : ε → Prop} {x : Except ε α} (hx : Meets E P x) (hE : ∀ e, E e → E' e)
    (hP : ∀ a, P a → Q a) : Meets E' Q x := by
  cases x with
  | ok a => exact hP a hx
  | error e => exact hE e hx

theorem imp {x : Except ε α} (hx : Meets E P x) (hP : ∀ a, P a → Q a) : Meets E Q x :=
  hx.mono (fun _ h => h) hP

theorem map {R : β → Prop} {x : Except ε α} {f : α → β} (hx : Meets E (fun a => R (f a)) x) :
    Meets E R (f <$> x) := by
  cases x with
  | ok a => exact hx
  | error e => exact hx

/-- Whatever a computation comes to is known of it if nothing is asked. -/
theorem anything (x : Except ε α) : Meets (fun _ => True) (fun _ => True) x := by
  cases x <;> trivial

theorem of_ok {x : Except ε α} {a : α} (h : x = .ok a) (hP : P a) : Meets E P x := by
  rw [h]
  exact hP

theorem ite {c : Prop} [Decidable c] {x y : Except ε α} (hx : c → Meets E P x)
    (hy : ¬c → Meets E P y) : Meets E P (if c then x else y) := by
  split
  · exact hx ‹_›
  · exact hy ‹_›

theorem value {x : Except ε α} {a : α} (hx : Meets E P x) (h : x = .ok a) : P a := by
  rw [h] at hx
  exact hx

theorem cause {x : Except ε α} {e : ε} (hx : Meets E P x) (h : x = .error e) : E e := by
  rw [h] at hx
  exact hx

/-- Causes that do not occur need not be allowed. -/
theorem exact {x : Except ε α} (hx : Meets E P x) : Meets (fun e => x = .error e ∧ E e) P x := by
  cases x with
  | ok a => exact hx
  | error e => exact ⟨rfl, hx⟩

theorem and {x : Except ε α} (hx : Meets E P x) (hy : Meets E Q x) :
    Meets E (fun a => P a ∧ Q a) x := by
  cases x with
  | ok a => exact ⟨hx, hy⟩
  | error e => exact hx

theorem lift {E : Failure → Prop} {x : Except Fault α} (hx : Meets (fun f => E (.fault f)) P x) :
    Meets E P (liftM x : Except Failure α) := by
  cases x with
  | ok a => exact hx
  | error e => exact hx

theorem mapM {R : α → β → Prop} {f : α → Except ε β} {xs : List α}
    (h : ∀ x ∈ xs, Meets E (R x) (f x)) : Meets E (List.Forall₂ R xs) (xs.mapM f) := by
  induction xs with
  | nil => exact List.Forall₂.nil
  | cons x xs ih =>
    rw [List.mapM_cons]
    refine (h x (by simp)).bind fun b hb => ?_
    refine (ih fun y hy => h y (by simp [hy])).bind fun bs hbs => ?_
    exact List.Forall₂.cons hb hbs

theorem mapM_all {P : β → Prop} {f : α → Except ε β} {l : List α} (h : ∀ x ∈ l, Meets E P (f x)) :
    Meets E (fun ys => ∀ y ∈ ys, P y) (l.mapM f) := by
  induction l with
  | nil => exact fun y hy => (List.not_mem_nil hy).elim
  | cons x xs ih =>
    rw [List.mapM_cons]
    refine (h x (by simp)).bind fun b hb => ?_
    refine (ih fun y hy => h y (by simp [hy])).bind fun bs hbs => ?_
    intro y hy
    rcases List.mem_cons.1 hy with rfl | hy
    · exact hb
    · exact hbs y hy

theorem foldlM {I : β → Prop} {f : β → α → Except ε β} {xs : List α} {b : β} (hb : I b)
    (h : ∀ b, ∀ x ∈ xs, I b → Meets E I (f b x)) : Meets E I (xs.foldlM f b) := by
  induction xs generalizing b with
  | nil => exact hb
  | cons x xs ih =>
    rw [List.foldlM_cons]
    exact (h b x (by simp) hb).bind fun c hc => ih hc fun d y hy => h d y (by simp [hy])

end Meets

namespace Yields

variable {P : α → Prop} {x : Except ε α}

theorem exists_ok (h : Yields P x) : ∃ a, x = .ok a ∧ P a := by
  cases x with
  | ok a => exact ⟨a, rfl, h⟩
  | error e => exact h.elim

theorem anyway {E : ε → Prop} (h : Yields P x) : Meets E P x := h.mono (fun _ => False.elim) fun _ => id

theorem lift {x : Except Fault α} (h : Yields P x) {E : Failure → Prop} :
    Meets E P (liftM x : Except Failure α) := Meets.lift h.anyway

end Yields

/-- The value of the computation has the property, if there is one. -/
abbrev Returns (P : α → Prop) (x : Except ε α) : Prop := Meets (fun _ => True) P x

namespace Returns

variable {P : α → Prop} {Q : β → Prop}

/-- What comes first does not matter if all that follows it has the property. -/
theorem after {x : Except ε β} {f : β → Except ε α} (h : ∀ b, Returns P (f b)) : Returns P (x >>= f) :=
  (Meets.anything x).bind fun b _ => h b

/-- What every value has, the value has. -/
theorem always {x : Except ε α} (h : ∀ a, P a) : Returns P x := (Meets.anything x).imp fun a _ => h a

theorem bind {x : Except ε β} {f : β → Except ε α} (hx : Returns Q x) (hf : ∀ b, Q b → Returns P (f b)) :
    Returns P (x >>= f) := Meets.bind hx hf

theorem map {x : Except ε α} {f : α → β} (h : Returns (fun a => Q (f a)) x) : Returns Q (f <$> x) := Meets.map h

theorem ite {c : Prop} [Decidable c] {x y : Except ε α} (hx : Returns P x) (hy : Returns P y) :
    Returns P (if c then x else y) := Meets.ite (fun _ => hx) fun _ => hy

theorem foldlM {f : β → α → Except ε β} {xs : List α} {b : β} (hb : Q b)
    (h : ∀ b x, Q b → Returns Q (f b x)) : Returns Q (xs.foldlM f b) :=
  Meets.foldlM hb fun b x _ => h b x

theorem lift {x : Except Fault α} (h : Returns P x) : Returns P (liftM x : Except Failure α) := Meets.lift h

/-- The value is one that the computation gives. -/
theorem of_value {x : Except ε α} (h : ∀ a, x = .ok a → P a) : Returns P x := by
  cases x with
  | ok a => exact h a rfl
  | error e => trivial

end Returns

/-- If no step fails but with one cause, and some step fails, so does the loop. -/
theorem mapM_error {f : α → Except ε β} {e : ε} {l : List α}
    (only : ∀ x ∈ l, Meets (· = e) (fun _ => True) (f x)) {x : α} (hx : x ∈ l) (hf : f x = .error e) :
    l.mapM f = .error e := by
  induction l with
  | nil => cases hx
  | cons y ys ih =>
    rw [List.mapM_cons]
    cases hy : f y with
    | error e' =>
      have heq : e' = e := (only y (by simp)).cause hy
      rw [heq]
      rfl
    | ok b =>
      rcases List.mem_cons.1 hx with rfl | hx
      · rw [hf] at hy
        cases hy
      · rw [ok_bind, ih (fun z hz => only z (by simp [hz])) hx]
        rfl

theorem foldlM_error {I : β → Prop} {f : β → α → Except ε β} {e : ε} {xs : List α} {b : β} (hb : I b)
    (only : ∀ b, ∀ x ∈ xs, I b → Meets (· = e) I (f b x)) {x : α} (hx : x ∈ xs)
    (hf : ∀ b, I b → f b x = .error e) : xs.foldlM f b = .error e := by
  induction xs generalizing b with
  | nil => cases hx
  | cons y ys ih =>
    rw [List.foldlM_cons]
    have hy := only b y (by simp) hb
    cases hstep : f b y with
    | error e' => rw [error_bind, hy.cause hstep]
    | ok c =>
      rcases List.mem_cons.1 hx with rfl | hx
      · rw [hf b hb] at hstep
        cases hstep
      · rw [ok_bind, ih (hy.value hstep) (fun c z hz => only c z (by simp [hz])) hx]

/-! ## Searches -/

namespace Topology

theorem findFirst_ok {c : α → Except Fault Bool} {p : α → Bool} {l : List α}
    (h : ∀ x ∈ l, c x = .ok (p x)) : findFirst c l = .ok (l.find? p) := by
  induction l with
  | nil => rfl
  | cons x xs ih =>
    have hx := h x (by simp)
    have hxs := ih fun y hy => h y (by simp [hy])
    unfold findFirst
    cases hp : p x with
    | true => simp [hx, hp]
    | false => simp [hx, hp, hxs]

theorem findFirst_eq_some {c : α → Except Fault Bool} {l : List α} {x : α}
    (h : findFirst c l = .ok (some x)) : x ∈ l ∧ c x = .ok true := by
  induction l with
  | nil => cases h
  | cons y ys ih =>
    unfold findFirst at h
    obtain ⟨b, hb, h⟩ := bind_eq_ok.1 h
    cases b with
    | true =>
      obtain rfl : y = x := by simpa using h
      exact ⟨List.mem_cons_self, hb⟩
    | false =>
      obtain ⟨hmem, hx⟩ := ih (by simpa using h)
      exact ⟨List.mem_cons_of_mem _ hmem, hx⟩

theorem anyOf_ok {c : α → Except Fault Bool} {p : α → Bool} {l : List α}
    (h : ∀ x ∈ l, c x = .ok (p x)) : anyOf c l = .ok (l.any p) := by
  unfold anyOf
  rw [findFirst_ok h]
  simp only [ok_bind, pure_eq_ok]
  rw [Bool.eq_iff_iff.2 (List.find?_isSome.trans List.any_eq_true.symm)]

theorem findFirst_map {check : β → Except Fault Bool} {check' : α → Except Fault Bool} {g : α → β}
    (h : ∀ x, check (g x) = check' x) (xs : List α) :
    findFirst check (xs.map g) = Option.map g <$> findFirst check' xs := by
  induction xs with
  | nil => rfl
  | cons x xs ih =>
    rw [List.map_cons]
    unfold findFirst
    rw [h, ih]
    cases check' x with
    | error f => rfl
    | ok b => cases b <;> rfl

theorem anyOf_map {check : β → Except Fault Bool} {check' : α → Except Fault Bool} {g : α → β}
    (h : ∀ x, check (g x) = check' x) (xs : List α) : anyOf check (xs.map g) = anyOf check' xs := by
  unfold anyOf
  rw [findFirst_map h]
  cases findFirst check' xs <;> simp

end Topology

/-! ## Refusals -/

/-- A failure that is no fault: the line is not understood, or the device refuses the command. -/
def Failure.isPolite : Failure → Prop
  | .fault _ => False
  | _ => True

/-- The computation gives a value with the property or is refused; there is no fault. -/
abbrev Answers (P : α → Prop) (x : Except Failure α) : Prop := Meets Failure.isPolite P x

theorem Answers.refuse {P : α → Prop} (r : Refusal) : Answers P (Outcome.refuse r) := trivial

theorem Answers.refuseIf (c : Bool) (r : Refusal) : Answers (fun _ => c = false) (Outcome.refuseIf c r) := by
  unfold Outcome.refuseIf
  cases c with
  | true => trivial
  | false => rfl

end NetRack
