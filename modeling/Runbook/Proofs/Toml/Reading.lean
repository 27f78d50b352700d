import Runbook.Proofs.Checked
import Runbook.Proofs.Toml.Value
import Runbook.Toml.Reading

/-!
# Structures in tables

A structure is read from a table entry by entry. What belongs to no field is passed over if every
number in it is one that a reader can hold (`Value.Fits`, `ignore_okIff`), and stops the reading
otherwise. `Table.Gives` says that a table gives a field: each entry under its key is a value of the
field, and if there is none the field is what it is by default.

While a table is read, a field is as given if its key has been met, and otherwise as it is by
default (`pick`). If each entry keeps this up for what is known of the whole structure, then the
structure is read, whichever keys there are and in whatever order (`readEntries_okIff`).
-/

namespace Runbook.Toml

/-! ## Values that are passed over -/

/-- Every number in the value is one that a reader can hold: a whole number of at most 128 bits,
with or without a sign, or a decimal in the range of floating-point numbers. -/
inductive Value.Fits : Value → Prop
  | string (text : Text) : Fits (.string text)
  | integer {n : Int} (hlow : -(doubleLimit : Int) ≤ n) (hhigh : n < 2 * doubleLimit) :
    Fits (.integer n)
  | float (value : Binary) : Fits (.float value)
  | boolean (value : Bool) : Fits (.boolean value)
  | datetime : Fits .datetime
  | array {items : List Value} (h : ∀ item ∈ items, Fits item) : Fits (.array items)
  | table {entries : Table} (h : ∀ entry ∈ entries, Fits entry.2) : Fits (.table entries)

namespace Value

theorem fits_integer_iff {n : Int} :
    (integer n).Fits ↔ -(doubleLimit : Int) ≤ n ∧ n < 2 * doubleLimit :=
  ⟨fun | .integer hlow hhigh => ⟨hlow, hhigh⟩, fun ⟨hlow, hhigh⟩ => .integer hlow hhigh⟩

theorem fits_array_iff {items : List Value} :
    (array items).Fits ↔ ∀ item ∈ items, item.Fits :=
  ⟨fun | .array h => h, .array⟩

theorem fits_table_iff {entries : Table} :
    (table entries).Fits ↔ ∀ entry ∈ entries, entry.2.Fits :=
  ⟨fun | .table h => h, .table⟩

end Value

/-- A whole number is passed over just if it fits. -/
theorem ignore_integer (n : Int) : OkIff (ignore (.integer n)) (Value.integer n).Fits () := by
  have hword : (signedLimit : Int) ≤ doubleLimit ∧ (wordSize : Int) ≤ doubleLimit := by decide
  refine .congr ?_ Value.fits_integer_iff.symm
  simp only [ignore, Value.found, Bool.and_eq_true, decide_eq_true_eq]
  split
  · exact .of_eq_ok rfl (by omega)
  split
  · exact .of_eq_ok rfl (by omega)
  split
  · exact .of_eq_ok rfl (by omega)
  · exact fun _ => iff_of_false nofun (by omega)

mutual

/-- A value is passed over just if it fits. -/
theorem ignore_okIff : (value : Value) → OkIff (ignore value) value.Fits ()
  | .string text => .of_eq_ok (by rw [ignore]) (.string text)
  | .integer n => ignore_integer n
  | .badInteger => fun _ => iff_of_false (by rw [ignore]; nofun) nofun
  | .float value => .of_eq_ok (by rw [ignore]) (.float value)
  | .hugeFloat => fun _ => iff_of_false (by rw [ignore]; nofun) nofun
  | .boolean value => .of_eq_ok (by rw [ignore]) (.boolean value)
  | .datetime => .of_eq_ok (by rw [ignore]) .datetime
  | .array items => by
    rw [ignore]
    exact (ignoreItems_okIff items).congr Value.fits_array_iff.symm
  | .table entries => by
    rw [ignore]
    exact (ignoreEntries_okIff entries).congr Value.fits_table_iff.symm

/-- The items of an array are passed over just if they fit. -/
theorem ignoreItems_okIff :
    (items : List Value) → OkIff (ignoreItems items) (∀ item ∈ items, item.Fits) ()
  | [] => .of_eq_ok (by rw [ignoreItems]) nofun
  | value :: rest => by
    rw [ignoreItems]
    exact ((ignore_okIff value).bind (ignoreItems_okIff rest)).congr List.forall_mem_cons.symm

/-- The entries of a table are passed over just if their values fit. -/
theorem ignoreEntries_okIff : (entries : List (Text × Value)) →
    OkIff (ignoreEntries entries) (∀ entry ∈ entries, entry.2.Fits) ()
  | [] => .of_eq_ok (by rw [ignoreEntries]) nofun
  | (key, value) :: rest => by
    rw [ignoreEntries]
    exact ((ignore_okIff value).bind (ignoreEntries_okIff rest)).congr
      (by rw [List.forall_mem_cons])

end

instance (value : Value) : Decidable value.Fits :=
  decidable_of_iff (ignore value = .ok ()) (((ignore_okIff value) ()).trans (and_iff_left rfl))

/-! ## Fields in a table -/

/-- The table gives a field under its key: what stands there is a value of the field, and the key
may only be missing if the field is what it is by default. -/
structure Table.Gives (table : Table) (key : Text) (IsValue : Value → Prop) (isDefault : Prop) :
    Prop where
  value : ∀ value, (key, value) ∈ table → IsValue value
  default : key ∉ table.map Prod.fst → isDefault

instance {table : Table} {key : Text} {IsValue : Value → Prop} {isDefault : Prop}
    [DecidablePred IsValue] [Decidable isDefault] :
    Decidable (table.Gives key IsValue isDefault) :=
  decidable_of_iff ((∀ entry ∈ table, entry.1 = key → IsValue entry.2) ∧
      (key ∉ table.map Prod.fst → isDefault))
    ⟨fun h => ⟨fun value hvalue => h.1 (key, value) hvalue rfl, h.2⟩,
      fun h => ⟨fun (_, value) hvalue hkey => h.value value (hkey ▸ hvalue), h.default⟩⟩

/-- The value is a string, and the text is there and is the same. -/
def IsString (text : Option Text) (value : Value) : Prop := ∃ t, text = some t ∧ value = .string t

instance {text : Option Text} {value : Value} : Decidable (IsString text value) :=
  match text with
  | none => .isFalse nofun
  | some t => decidable_of_iff (value = .string t)
    ⟨fun h => ⟨t, rfl, h⟩, fun ⟨_, ht, h⟩ => Option.some.inj ht ▸ h⟩

/-- The value is a table that has the property. -/
def IsTable (holds : Table → Prop) (value : Value) : Prop :=
  ∃ entries, value = .table entries ∧ holds entries

instance {holds : Table → Prop} {value : Value} [DecidablePred holds] :
    Decidable (IsTable holds value) :=
  match value with
  | .table entries => decidable_of_iff (holds entries)
    ⟨fun h => ⟨entries, rfl, h⟩, fun ⟨_, heq, h⟩ => Value.table.inj heq ▸ h⟩
  | .string _ | .integer _ | .badInteger | .float _ | .hugeFloat | .boolean _ | .datetime
  | .array _ => .isFalse nofun

/-- A field as far as the keys `seen` tell: as given if its key is among them, and otherwise as it
is by default. -/
def pick {α : Type} (seen : List Text) (key : Text) (given default : α) : α :=
  if key ∈ seen then given else default

section
variable {α : Type} {seen : List Text} {key other : Text} {given default : α}

theorem pick_append_self : pick (seen ++ [key]) key given default = given :=
  if_pos (List.mem_append_right _ (List.mem_singleton_self key))

theorem pick_append_of_ne (h : key ≠ other) :
    pick (seen ++ [other]) key given default = pick seen key given default :=
  if_congr (List.mem_append.trans (or_iff_left fun hmem => h (List.mem_singleton.mp hmem))) rfl rfl

/-- The keys of a table that gives the field tell it. -/
theorem Table.Gives.pick_keys {table : Table} {IsValue : Value → Prop}
    (h : table.Gives key IsValue (given = default)) :
    pick (table.map Prod.fst) key given default = given := by
  unfold pick
  split
  · rfl
  · next hkey => exact (h.default hkey).symm

end

/-! ## Reading a table -/

section
variable {α : Type} {fields : List (FieldReader α)}

/-- If the entries of each field are read to what is known with its key, and other keys tell
nothing, then a table is read to what is known with all its keys. -/
theorem readEntries_known {known : List Text → α} {table : Table}
    (hfields : ∀ field ∈ fields, ∀ value, (field.name, value) ∈ table → ∀ seen,
      OkIff (field.read (known seen) value) value.Fits (known (seen ++ [field.name])))
    (hothers : ∀ key, (∀ field ∈ fields, field.name ≠ key) →
      ∀ seen, known (seen ++ [key]) = known seen)
    (seen : List Text) :
    OkIff (readEntries fields (known seen) table) (∀ entry ∈ table, entry.2.Fits)
      (known (seen ++ table.map Prod.fst)) := by
  induction table generalizing seen with
  | nil =>
    rw [readEntries, List.map_nil, List.append_nil]
    exact .of_eq_ok rfl nofun
  | cons entry rest ih =>
    obtain ⟨key, value⟩ := entry
    have hrest := ih (fun field hfield value hvalue =>
      hfields field hfield value (List.mem_cons_of_mem _ hvalue)) (seen ++ [key])
    rw [List.append_assoc, List.singleton_append] at hrest
    rw [readEntries, List.map_cons]
    refine .congr ?_ List.forall_mem_cons.symm
    cases hfield : fields.find? (·.name = key) with
    | some field =>
      obtain rfl : field.name = key := of_decide_eq_true (List.find?_some hfield :)
      exact (hfields field (List.mem_of_find?_eq_some hfield) value List.mem_cons_self seen).bind
        hrest
    | none =>
      have hkey : ∀ field ∈ fields, field.name ≠ key := fun field hmem hname =>
        List.find?_eq_none.mp hfield field hmem (decide_eq_true hname)
      rw [hothers key hkey seen] at hrest
      exact (ignore_okIff value).bind hrest

/-- A structure of which nothing is known at first, and all in the end, is read just if the values
of its entries fit. -/
theorem readEntries_okIff {known : List Text → α} {table : Table} {initial a : α}
    (hinitial : known [] = initial) (hfinal : known (table.map Prod.fst) = a)
    (hfields : ∀ field ∈ fields, ∀ value, (field.name, value) ∈ table → ∀ seen,
      OkIff (field.read (known seen) value) value.Fits (known (seen ++ [field.name])))
    (hothers : ∀ key, (∀ field ∈ fields, field.name ≠ key) →
      ∀ seen, known (seen ++ [key]) = known seen) :
    OkIff (readEntries fields initial table) (∀ entry ∈ table, entry.2.Fits) a := by
  have hread := readEntries_known hfields hothers []
  rwa [List.nil_append, hinitial, hfinal] at hread

/-- A structure is read from a table by its entries. -/
theorem readStructure_okIff {expected : Text} {initial a : α} {holds : Table → Prop} {value : Value}
    (hread : ∀ table, holds table →
      OkIff (readEntries fields initial table) (∀ entry ∈ table, entry.2.Fits) a)
    (h : IsTable holds value) :
    OkIff (readStructure expected fields initial value) value.Fits a := by
  obtain ⟨entries, rfl, hentries⟩ := h
  exact (hread entries hentries).congr Value.fits_table_iff.symm

end

/-- Every word is read as itself. -/
theorem readCount_okIff (n : UInt64) :
    OkIff (readCount (.integer n.toNat)) (Value.integer n.toNat).Fits n := by
  have hlt : n.toNat < wordSize := n.toNat_lt
  have hword : wordSize ≤ doubleLimit := by decide
  refine .of_eq_ok ?_ (.integer (by omega) (by omega))
  have hcount : 0 ≤ (n.toNat : Int) ∧ (n.toNat : Int) < wordSize := by omega
  rw [readCount, if_pos (by simpa using hcount), Int.toNat_natCast, UInt64.ofNat_toNat]

end Runbook.Toml
