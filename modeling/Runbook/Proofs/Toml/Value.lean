import Runbook.Toml.Value

/-!
# Equality of values

Whether two values of a document are the same can be found out by going through both (`Value.same`),
so equality of values, and with it that of documents, is decidable.
-/

namespace Runbook.Toml

mutual

/-- Whether two values are the same. -/
def Value.same : Value → Value → Bool
  | .string s, .string t => s == t
  | .integer m, .integer n => m == n
  | .badInteger, .badInteger => true
  | .float x, .float y => x == y
  | .hugeFloat, .hugeFloat => true
  | .boolean b, .boolean c => b == c
  | .datetime, .datetime => true
  | .array items, .array items' => sameItems items items'
  | .table entries, .table entries' => sameEntries entries entries'
  | _, _ => false

/-- Whether two arrays have the same items. -/
def sameItems : List Value → List Value → Bool
  | [], [] => true
  | a :: items, b :: items' => a.same b && sameItems items items'
  | _, _ => false

/-- Whether two tables have the same entries. -/
def sameEntries : List (Text × Value) → List (Text × Value) → Bool
  | [], [] => true
  | (key, a) :: entries, (key', b) :: entries' =>
    key == key' && a.same b && sameEntries entries entries'
  | _, _ => false

end

mutual

theorem Value.eq_of_same : (a b : Value) → a.same b = true → a = b
  | .string _, b, h | .integer _, b, h | .boolean _, b, h | .float _, b, h => by
    cases b <;> simp_all [Value.same]
  | .badInteger, b, h | .hugeFloat, b, h | .datetime, b, h => by
    cases b <;> simp_all [Value.same]
  | .array items, b, h => by
    cases b with
    | array items' => rw [eq_of_sameItems items items' (by simpa only [Value.same] using h)]
    | _ => simp [Value.same] at h
  | .table entries, b, h => by
    cases b with
    | table entries' =>
      rw [eq_of_sameEntries entries entries' (by simpa only [Value.same] using h)]
    | _ => simp [Value.same] at h

theorem eq_of_sameItems :
    (items items' : List Value) → sameItems items items' = true → items = items'
  | [], [], _ => rfl
  | a :: items, b :: items', h => by
    rw [sameItems, Bool.and_eq_true] at h
    rw [Value.eq_of_same a b h.1, eq_of_sameItems items items' h.2]
  | [], _ :: _, h | _ :: _, [], h => by simp [sameItems] at h

theorem eq_of_sameEntries : (entries entries' : List (Text × Value)) →
    sameEntries entries entries' = true → entries = entries'
  | [], [], _ => rfl
  | (key, a) :: entries, (key', b) :: entries', h => by
    rw [sameEntries, Bool.and_eq_true, Bool.and_eq_true] at h
    rw [beq_iff_eq.mp h.1.1, Value.eq_of_same a b h.1.2, eq_of_sameEntries entries entries' h.2]
  | [], _ :: _, h | _ :: _, [], h => by simp [sameEntries] at h

end

mutual

theorem Value.same_self : (a : Value) → a.same a = true
  | .string _ | .integer _ | .boolean _ | .float _ => by simp [Value.same]
  | .badInteger | .hugeFloat | .datetime => by simp [Value.same]
  | .array items => by rw [Value.same, sameItems_self items]
  | .table entries => by rw [Value.same, sameEntries_self entries]

theorem sameItems_self : (items : List Value) → sameItems items items = true
  | [] => by rw [sameItems]
  | a :: items => by rw [sameItems, Value.same_self a, sameItems_self items, Bool.and_self]

theorem sameEntries_self : (entries : List (Text × Value)) → sameEntries entries entries = true
  | [] => by rw [sameEntries]
  | (key, a) :: entries => by
    rw [sameEntries, Value.same_self a, sameEntries_self entries, beq_self_eq_true, Bool.and_self,
      Bool.and_self]

end

instance : DecidableEq Value := fun a b =>
  decidable_of_iff (a.same b = true) ⟨Value.eq_of_same a b, fun h => h ▸ Value.same_self a⟩

end Runbook.Toml
