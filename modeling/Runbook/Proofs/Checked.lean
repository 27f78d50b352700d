import Mathlib.Data.List.Forall2
import Runbook.Word

/-!
# Computations that give a value

What a computation that may fail says about its parts, once it has given a value: both parts of a
bind have (`exists_ok_of_bind`), each step of a traversal has (`mapM_eq_ok_iff`), and a sum has
stayed in the range of a word (`lt_of_addWord`). A traversal that gives none ends with the fault of
the first element that has one (`FirstFault`, `mapM_eq_error_iff`).

`OkIff` says of a computation when it gives a value and which. One step after another needs the
conditions of both (`OkIff.bind`), and a traversal those of all (`OkIff.mapM`).

`Checked.ofFaults` is a computation told by all that is wrong with its input: it ends with the first
fault, or with a value. Computations that are made one after another have their faults in this order
(`Checked.ofFaults_bind`).
-/

namespace Runbook

/-- Of two computations one after the other that give a value, both do. -/
theorem exists_ok_of_bind {ε α β : Type} {x : Except ε α} {f : α → Except ε β} {b : β}
    (h : x >>= f = .ok b) : ∃ a, x = .ok a ∧ f a = .ok b := by
  cases x with
  | error fault => cases h
  | ok a => exact ⟨a, rfl, h⟩

/-- The fault of two computations one after the other is that of the first, or else of the second.
-/
theorem bind_eq_error_iff {ε α β : Type} {x : Except ε α} {f : α → Except ε β} {reason : ε} :
    x >>= f = .error reason ↔ x = .error reason ∨ ∃ a, x = .ok a ∧ f a = .error reason := by
  cases x with
  | error fault =>
    constructor
    · intro h
      exact .inl (congrArg Except.error (Except.error.inj h))
    · rintro (h | ⟨a, ha, -⟩)
      · exact congrArg Except.error (Except.error.inj h)
      · cases ha
  | ok a =>
    constructor
    · exact fun h => .inr ⟨a, rfl, h⟩
    · rintro (h | ⟨_, ⟨⟩, h⟩)
      · cases h
      · exact h

/-- To work on a value is no fault. -/
theorem bind_pure_eq_error_iff {ε α β : Type} {x : Except ε α} {f : α → β} {reason : ε} :
    (x >>= fun a => pure (f a)) = .error reason ↔ x = .error reason := by
  rw [bind_eq_error_iff]
  exact or_iff_left fun ⟨_, _, h⟩ => nomatch h

/-- A traversal gives a value just if each of its steps does, and the value is the list of theirs.
-/
theorem mapM_eq_ok_iff {ε α β : Type} {f : α → Except ε β} {xs : List α} {ys : List β} :
    xs.mapM f = .ok ys ↔ List.Forall₂ (fun x y => f x = .ok y) xs ys := by
  induction xs generalizing ys with
  | nil =>
    rw [List.mapM_nil, List.forall₂_nil_left_iff]
    exact ⟨fun h => (Except.ok.inj h).symm, fun h => congrArg _ h.symm⟩
  | cons x xs ih =>
    rw [List.mapM_cons]
    constructor
    · intro h
      obtain ⟨y, hy, h⟩ := exists_ok_of_bind h
      obtain ⟨rest, hrest, h⟩ := exists_ok_of_bind h
      cases h
      exact .cons hy (ih.mp hrest)
    · rintro (_ | ⟨hy, hrest⟩)
      rw [hy, ih.mpr hrest]
      rfl

/-- Of two lists that are related place by place, what holds of the elements of one holds of those
of the other. -/
theorem forall_mem_iff_of_forall₂ {α β : Type} {R : α → β → Prop} {p : α → Prop} {q : β → Prop}
    {xs : List α} {ys : List β} (h : List.Forall₂ R xs ys) (hR : ∀ x y, R x y → (p x ↔ q y)) :
    (∀ x ∈ xs, p x) ↔ ∀ y ∈ ys, q y := by
  induction h with
  | nil => exact iff_of_true nofun nofun
  | cons hxy _ ih => rw [List.forall_mem_cons, List.forall_mem_cons, hR _ _ hxy, ih]

/-! ## Conditions for a value -/

/-- The computation gives the value `a` under the condition `p`, and no value otherwise. -/
def OkIff {ε α : Type} (x : Except ε α) (p : Prop) (a : α) : Prop :=
  ∀ b, x = .ok b ↔ p ∧ b = a

namespace OkIff

variable {ε α β : Type} {x : Except ε α} {p q : Prop} {a : α} {b : β}

theorem of_eq_ok (hx : x = .ok a) (hp : p) : OkIff x p a := fun _ => by
  rw [hx, Except.ok.injEq, eq_comm]
  exact (and_iff_right hp).symm

theorem congr (h : OkIff x p a) (hpq : p ↔ q) : OkIff x q a := fun b => by
  rw [h b, hpq]

/-- Of two computations one after the other, each has its condition. -/
theorem bind {f : α → Except ε β} (hx : OkIff x p a) (hf : OkIff (f a) q b) :
    OkIff (x >>= f) (p ∧ q) b := by
  intro c
  rw [and_assoc, ← hf c]
  constructor
  · intro h
    obtain ⟨_, ha, h⟩ := exists_ok_of_bind h
    obtain ⟨hp, rfl⟩ := (hx _).mp ha
    exact ⟨hp, h⟩
  · rintro ⟨hp, h⟩
    rw [(hx a).mpr ⟨hp, rfl⟩]
    exact h

/-- To work on a value needs no condition. -/
theorem map {f : α → β} (hx : OkIff x p a) : OkIff (x >>= fun a => pure (f a)) p (f a) :=
  (hx.bind (f := fun a => pure (f a)) (of_eq_ok rfl trivial)).congr (and_iff_left trivial)

/-- What an error is turned into does not matter. -/
theorem mapError {ε' : Type} {f : ε → ε'} (hx : OkIff x p a) : OkIff (x.mapError f) p a := by
  intro b
  rw [← hx b]
  cases x with
  | error fault => exact iff_of_false nofun nofun
  | ok a => exact Iff.of_eq (by rw [Except.mapError, Except.ok.injEq, Except.ok.injEq])

/-- A traversal has the conditions of all its steps. -/
theorem mapM {f : α → Except ε β} {p : α → Prop} {xs : List α} {ys : List β}
    (h : List.Forall₂ (fun x y => OkIff (f x) (p x) y) xs ys) :
    OkIff (xs.mapM f) (∀ x ∈ xs, p x) ys := by
  induction h with
  | nil => exact of_eq_ok rfl nofun
  | cons hx _ ih =>
    rw [List.mapM_cons]
    exact (hx.bind ih.map).congr List.forall_mem_cons.symm

end OkIff

/-! ## Sums -/

/-- A sum that has been computed is in the range of a machine word. -/
theorem lt_of_addWord {a b sum : Nat} (h : addWord a b = .ok sum) : a + b < wordSize := by
  unfold addWord at h
  split at h
  · assumption
  · cases h

/-! ## The first element at fault -/

/-- `reason` is the fault of the first of `xs` that has one. -/
def FirstFault {α ε : Type} (fault : α → ε → Prop) (xs : List α) (reason : ε) : Prop :=
  ∃ before x after, xs = before ++ x :: after ∧ fault x reason ∧ ∀ y ∈ before, ∀ r, ¬ fault y r

namespace FirstFault

variable {α β ε : Type} {fault fault' : α → ε → Prop} {xs : List α} {reason : ε}

/-- Of no elements none is at fault. -/
theorem not_nil : ¬ FirstFault fault [] reason := by
  rintro ⟨before, x, after, hnil, -⟩
  exact List.append_ne_nil_of_right_ne_nil _ (List.cons_ne_nil _ _) hnil.symm

/-- The first element at fault is the head, or the head is not and it is the first of the others. -/
theorem cons_iff {x : α} : FirstFault fault (x :: xs) reason ↔
    fault x reason ∨ (∀ r, ¬ fault x r) ∧ FirstFault fault xs reason := by
  constructor
  · rintro ⟨before, y, after, hsplit, hfault, hbefore⟩
    cases before with
    | nil =>
      obtain ⟨rfl, -⟩ := List.cons.inj hsplit
      exact .inl hfault
    | cons b before =>
      obtain ⟨rfl, hrest⟩ := List.cons.inj hsplit
      obtain ⟨hhead, hothers⟩ := List.forall_mem_cons.mp hbefore
      exact .inr ⟨hhead, before, y, after, hrest, hfault, hothers⟩
  · rintro (hfault | ⟨hhead, before, y, after, rfl, hfault, hbefore⟩)
    · exact ⟨[], x, xs, rfl, hfault, nofun⟩
    · exact ⟨x :: before, y, after, rfl, hfault, List.forall_mem_cons.mpr ⟨hhead, hbefore⟩⟩

/-- There is a first element at fault if there is one at all. -/
theorem exists_iff : (∃ reason, FirstFault fault xs reason) ↔ ∃ x ∈ xs, ∃ r, fault x r := by
  induction xs with
  | nil => exact iff_of_false (fun ⟨_, h⟩ => not_nil h) nofun
  | cons x xs ih =>
    simp only [cons_iff, exists_or, List.exists_mem_cons_iff, exists_and_left, ih]
    constructor
    · exact Or.imp_right And.right
    · intro h
      by_cases hx : ∃ r, fault x r
      · exact .inl hx
      · exact .inr ⟨not_exists.mp hx, h.resolve_left hx⟩

/-- Elements that stand for others have their faults. -/
theorem map_iff {fault : β → ε → Prop} (f : α → β) :
    FirstFault fault (xs.map f) reason ↔ FirstFault (fun x => fault (f x)) xs reason := by
  induction xs with
  | nil => exact iff_of_false not_nil not_nil
  | cons x xs ih => rw [List.map_cons, cons_iff, cons_iff, ih]

/-- Only the faults of the elements matter. -/
theorem congr (h : ∀ x r, fault x r ↔ fault' x r) :
    FirstFault fault xs reason ↔ FirstFault fault' xs reason := by
  rw [funext₂ fun x r => propext (h x r)]

end FirstFault

/-- A traversal ends with the fault of the first element whose step has one. -/
theorem mapM_eq_error_iff {ε α β : Type} {f : α → Except ε β} {xs : List α} {reason : ε} :
    xs.mapM f = .error reason ↔ FirstFault (fun x r => f x = .error r) xs reason := by
  induction xs with
  | nil =>
    rw [List.mapM_nil]
    exact iff_of_false nofun FirstFault.not_nil
  | cons x xs ih =>
    rw [List.mapM_cons, FirstFault.cons_iff, bind_eq_error_iff]
    refine or_congr_right ?_
    simp only [bind_pure_eq_error_iff, exists_and_right, ih]
    refine and_congr_left fun _ => ?_
    cases f x with
    | error r => exact iff_of_false nofun fun h => h r rfl
    | ok y => exact iff_of_true ⟨y, rfl⟩ nofun

/-! ## The first of several faults -/

namespace Checked

variable {ε α β : Type}

/-- The computation that ends with the first of the faults or, where there is none, with the value.
-/
def ofFaults (faults : List (Fault ε)) (value : α) : Checked ε α :=
  match faults with
  | [] => .ok value
  | fault :: _ => .error fault

/-- The computation that stands for a list of faults ends with a value just if the list is empty. -/
theorem ofFaults_eq_ok_iff {faults : List (Fault ε)} {a b : α} :
    ofFaults faults a = .ok b ↔ faults = [] ∧ a = b := by
  cases faults with
  | nil => exact ⟨fun h => ⟨rfl, Except.ok.inj h⟩, fun h => congrArg Except.ok h.2⟩
  | cons fault rest => exact ⟨nofun, fun h => absurd h.1 (List.cons_ne_nil _ _)⟩

/-- The computation that stands for a list of faults ends with the first of them. -/
theorem ofFaults_eq_error_iff {faults : List (Fault ε)} {a : α} {fault : Fault ε} :
    ofFaults faults a = .error fault ↔ faults.head? = some fault := by
  cases faults with
  | nil => exact ⟨nofun, nofun⟩
  | cons first rest =>
    exact ⟨fun h => congrArg some (Except.error.inj h), fun h => congrArg _ (Option.some.inj h)⟩

/-- A value that is worked on has no further faults. -/
theorem ofFaults_map {faults : List (Fault ε)} {a : α} (f : α → β) :
    (ofFaults faults a >>= fun a => pure (f a)) = ofFaults faults (f a) := by
  cases faults with
  | nil | cons => rfl

/-- Of two computations one after the other, the faults of the first come first. -/
theorem ofFaults_bind {faults more : List (Fault ε)} {a : α} {b : β} {f : α → Checked ε β}
    (h : f a = ofFaults more b) : ofFaults faults a >>= f = ofFaults (faults ++ more) b := by
  cases faults with
  | nil => exact h
  | cons fault rest => rfl

end Checked

end Runbook
