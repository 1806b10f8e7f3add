/-
  Pointers that may be NULL, arrays with a stated count, and C computations that may fault.

  1. **Data** — `C α` is a computation that yields an `α` or reaches undefined behaviour (`Fault`):
     a NULL pointer dereferenced, or an array indexed past its end.  A pointer is an `Option`, an
     array with its count a `CArray`, whose pointer may be NULL whatever the count says.

  2. **Programs** — `x <&&> y` and `x <||> y` are C's short-circuit operators: the right operand
     runs only if the left one does not decide.  The two loop shapes of a validator and of a lookup
     are `allIndices` (return false at the first index that fails) and `firstIndex` (return the
     first index that passes); an iteration that faults ends the loop with its fault.

  3. **Rules** — a computation is `Defined` if it yields a value.  Each operator has one rule for
     the value it needs (`and_eq_ok_true`, `or_eq_ok_false`, `not_eq_ok_true`) and one for
     definedness; `allIndices_eq_ok_true` and `firstIndex_eq_find` read a loop back as a statement
     about its iterations, and `mapM_eq_map` a loop that appends one row each.  Proofs about a C
     function use these rules by name and never unfold the monad.
-/
import Jaglink.Lib.CString
import Jaglink.Lib.FirstMatch
import Mathlib.Tactic.Common

namespace CLib

/-- Undefined behaviour a C program can run into here. -/
inductive Fault
  | nullPointer
  | outOfBounds
  deriving DecidableEq, Repr

/-- A C computation: a value, or undefined behaviour. -/
abbrev C (α : Type) := Except Fault α

variable {α : Type}

/-- `*p`. -/
def deref (p : Option α) : C α :=
  match p with
  | some a => .ok a
  | none => .error .nullPointer

@[simp] theorem deref_some (a : α) : deref (some a) = .ok a := rfl

/-- Reading through NULL is the fault. -/
@[simp] theorem deref_none : deref (none : Option α) = .error .nullPointer := rfl

/-- A computation goes on with the value of the one before it. -/
@[simp] theorem ok_bind {β : Type} (a : α) (f : α → C β) : (Except.ok a >>= f : C β) = f a := rfl

/-- A computation stops at the first fault. -/
@[simp] theorem error_bind {β : Type} (e : Fault) (f : α → C β) :
    (Except.error e >>= f : C β) = .error e := rfl

/-- A pointer to an array together with the count stated for it.  A non-NULL pointer has its
    stated count of entries; a NULL one may come with any count. -/
structure CArray (α : Type) where
  data : Option (List α)
  count : Nat
  stated : ∀ entries, data = some entries → entries.length = count

namespace CArray

/-- An array given by its entries. -/
def ofList (entries : List α) : CArray α where
  data := some entries
  count := entries.length
  stated := fun _ h => by cases h; rfl

/-- The entries a reader can reach; none behind a NULL pointer. -/
def entries (a : CArray α) : List α := a.data.getD []

/-- `a[i]`. -/
def get (a : CArray α) (i : Nat) : C α := do
  match (← deref a.data)[i]? with
  | some x => .ok x
  | none => .error .outOfBounds

/-- An entry is read exactly where the array has one. -/
theorem get_eq_ok_iff {a : CArray α} {i : Nat} {x : α} :
    a.get i = .ok x ↔ a.entries[i]? = some x := by
  unfold get entries
  cases h : a.data with
  | none => simp
  | some l =>
    simp only [deref_some, ok_bind, Option.getD_some]
    cases l[i]? <;> simp

/-- Every index below the count can be read: the pointer is not NULL, unless the count is 0. -/
def Readable (a : CArray α) : Prop := a.count ≠ 0 → a.data ≠ none

/-- A readable array has as many entries as its count says. -/
theorem Readable.length_entries {a : CArray α} (h : a.Readable) : a.entries.length = a.count := by
  unfold entries
  cases hd : a.data with
  | none =>
    by_cases h0 : a.count = 0
    · exact h0.symm
    · exact absurd hd (h h0)
  | some l => exact a.stated l hd

/-- No index below the count of a readable array faults. -/
theorem Readable.get {a : CArray α} (h : a.Readable) {i : Nat} (hi : i < a.count) :
    a.get i = .ok (a.entries.get ⟨i, h.length_entries ▸ hi⟩) := by
  rw [get_eq_ok_iff, List.get_eq_getElem]
  exact List.getElem?_eq_getElem _

/-- The array with more entries behind its own. -/
def extend (a : CArray α) (added : List α) : CArray α := ofList (a.entries ++ added)

@[simp] theorem entries_extend (a : CArray α) (added : List α) :
    (a.extend added).entries = a.entries ++ added := rfl

/-- An array made of a list is readable. -/
theorem readable_extend (a : CArray α) (added : List α) : (a.extend added).Readable := by
  intro _ h
  cases h

end CArray

/-- `table[i]` of a table with one entry for each byte value; the index is a wider integer. -/
def tableGet (table : UInt8 → α) (i : UInt32) : C α :=
  if i.toNat < 256 then .ok (table i.toUInt8) else .error .outOfBounds

/-- Below 256 the table has the entry. -/
theorem tableGet_of_lt (table : UInt8 → α) {i : UInt32} (h : i.toNat < 256) :
    tableGet table i = .ok (table i.toUInt8) := if_pos h

/-! ## Strings behind pointers that may be NULL -/

/-- `p[i]` for a string: readable up to and including the terminating NUL. -/
def charAt (p : Option CString) (i : Nat) : C UInt8 := do
  let s ← deref p
  if i ≤ s.strlen then .ok (s.charAt i) else .error .outOfBounds

/-- `strlen(p)`. -/
def strlen (p : Option CString) : C Nat := do return (← deref p).strlen

/-- `strcmp(p, q) == 0`. -/
def strcmpEq (p q : Option CString) : C Bool := do
  return strcmp (← deref p).bytes (← deref q).bytes == 0

/-- The first character of a string is there, if only as its terminator. -/
theorem charAt_zero (s : CString) : charAt (some s) 0 = .ok (s.charAt 0) := by
  simp [charAt]

/-- On two strings `strcmp` tells whether they are equal. -/
theorem strcmpEq_some (s t : CString) : strcmpEq (some s) (some t) = .ok (decide (s = t)) := by
  have h : (strcmp s.bytes t.bytes == 0) = decide (s = t) := by
    rw [Bool.eq_iff_iff, beq_iff_eq, decide_eq_true_eq, CString.strcmp_eq_zero_iff]
  simp [strcmpEq, h, pure, Except.pure]

/-! ## Short-circuit operators -/

/-- A conjunction that yields true has evaluated both sides. -/
theorem and_eq_ok_true {x y : C Bool} : (x <&&> y) = .ok true ↔ x = .ok true ∧ y = .ok true := by
  cases x with
  | error e => simp [andM]
  | ok b => cases b <;> simp [andM, ToBool.toBool, pure, Except.pure]

/-- A disjunction that yields false has evaluated both. -/
theorem or_eq_ok_false {x y : C Bool} :
    (x <||> y) = .ok false ↔ x = .ok false ∧ y = .ok false := by
  cases x with
  | error e => simp [orM]
  | ok b => cases b <;> simp [orM, ToBool.toBool, pure, Except.pure]

/-- `!x`. -/
def notC (x : C Bool) : C Bool := do return !(← x)

/-- Negation evaluates what it negates. -/
theorem not_eq_ok_true {x : C Bool} : notC x = .ok true ↔ x = .ok false := by
  cases x with
  | error e => simp [notC]
  | ok b => cases b <;> simp [notC, pure, Except.pure]

/-! ## Computations that do not fault -/

/-- The computation yields a value. -/
def Defined (x : C α) : Prop := ∃ a, x = .ok a

/-- A value is defined. -/
theorem Defined.ok (a : α) : Defined (.ok a : C α) := ⟨a, rfl⟩

/-- The right operand of `&&` has to be defined only where the left one is true. -/
theorem Defined.and {x y : C Bool} (hx : Defined x) (hy : x = .ok true → Defined y) :
    Defined (x <&&> y) := by
  obtain ⟨b, rfl⟩ := hx
  cases b with
  | false => exact ⟨false, rfl⟩
  | true => exact hy rfl

/-- The right operand of `||` has to be defined only where the left one is false. -/
theorem Defined.or {x y : C Bool} (hx : Defined x) (hy : x = .ok false → Defined y) :
    Defined (x <||> y) := by
  obtain ⟨b, rfl⟩ := hx
  cases b with
  | false => exact hy rfl
  | true => exact ⟨true, rfl⟩

/-- Negation adds no fault. -/
theorem Defined.not {x : C Bool} (hx : Defined x) : Defined (notC x) := by
  obtain ⟨b, rfl⟩ := hx
  exact ⟨!b, rfl⟩

/-- A test that is defined and not true is false. -/
theorem Defined.eq_false {x : C Bool} (hx : Defined x) (h : x ≠ .ok true) : x = .ok false := by
  obtain ⟨b, rfl⟩ := hx
  cases b with
  | false => rfl
  | true => exact absurd rfl h

/-! ## The two loop shapes -/

/-- `for (i = index; i < index + n; ++i) if (!body(i)) return false; return true;` -/
def allIndices (body : Nat → C Bool) (index : Nat) : Nat → C Bool
  | 0 => .ok true
  | n + 1 => body index <&&> allIndices body (index + 1) n

/-- `for (i = index; i < index + n; ++i) if (test(i)) return i; return NULL;` -/
def firstIndex (test : Nat → C Bool) (index : Nat) : Nat → C (Option Nat)
  | 0 => .ok none
  | n + 1 => do
    if ← test index then return some index
    firstIndex test (index + 1) n

/-- A validator loop succeeds exactly when every iteration does. -/
theorem allIndices_eq_ok_true {body : Nat → C Bool} {index n : Nat} :
    allIndices body index n = .ok true ↔ ∀ i, index ≤ i → i < index + n → body i = .ok true := by
  induction n generalizing index with
  | zero => simp [allIndices]; omega
  | succ n ih =>
    rw [allIndices, and_eq_ok_true, ih]
    constructor
    · rintro ⟨h0, hrest⟩ i hi hlt
      rcases Nat.eq_or_lt_of_le hi with rfl | hi
      · exact h0
      · exact hrest i hi (by omega)
    · intro h
      exact ⟨h index (Nat.le_refl _) (by omega), fun i hi hlt => h i (by omega) (by omega)⟩

/-- An iteration of a validator loop runs only after every earlier one succeeded. -/
theorem Defined.allIndices {body : Nat → C Bool} {index n : Nat}
    (h : ∀ i, index ≤ i → i < index + n → (∀ j, index ≤ j → j < i → body j = .ok true) →
      Defined (body i)) : Defined (allIndices body index n) := by
  induction n generalizing index with
  | zero => exact ⟨true, rfl⟩
  | succ n ih =>
    refine Defined.and (h index (Nat.le_refl _) (by omega) fun j _ _ => by omega) fun h0 => ih ?_
    intro i hi hlt hbefore
    refine h i (by omega) (by omega) fun j hj hji => ?_
    rcases Nat.eq_or_lt_of_le hj with rfl | hj
    · exact h0
    · exact hbefore j hj hji

/-- One round of the search: it stops at an index that passes, or goes on behind it. -/
theorem firstIndex_succ {test : Nat → C Bool} {index n : Nat} {b : Bool}
    (h : test index = .ok b) : firstIndex test index (n + 1) =
      if b then .ok (some index) else firstIndex test (index + 1) n := by
  rw [firstIndex, h]
  cases b <;> rfl

/-- **A search whose tests do not fault** is a search over the indices themselves. -/
theorem firstIndex_eq_find {test : Nat → C Bool} {t : Nat → Bool} {index n : Nat}
    (ht : ∀ k, index ≤ k → k < index + n → test k = .ok (t k)) :
    firstIndex test index n = .ok ((List.range' index n).find? t) := by
  induction n generalizing index with
  | zero => rfl
  | succ n ih =>
    rw [firstIndex_succ (ht index (Nat.le_refl _) (by omega)), List.range'_succ, List.find?_cons]
    cases t index with
    | true => rfl
    | false => exact ih fun k hk hlt => ht k (by omega) (by omega)

/-- A search over a readable array whose test is a key comparison on every entry. -/
theorem firstIndex_get_eq_lookup {κ : Type} [DecidableEq κ] {a : CArray α} (ha : a.Readable)
    {test : α → C Bool} {key : α → κ} {code : κ}
    (ht : ∀ x ∈ a.entries, test x = .ok (decide (key x = code))) :
    firstIndex (fun index => do test (← a.get index)) 0 a.count =
      .ok ((FirstMatch.lookup key a.entries code).map Fin.val) := by
  have hbody : ∀ k, 0 ≤ k → k < 0 + a.count → (do test (← a.get k) : C Bool) =
      .ok ((a.entries[k]?).any fun x => decide (key x = code)) := by
    intro k _ hk
    have hlt : k < a.entries.length := by rw [ha.length_entries]; omega
    have hget : a.get k = .ok a.entries[k] := ha.get (by omega)
    rw [hget, ok_bind, ht _ (List.getElem_mem hlt), List.getElem?_eq_getElem hlt]
    rfl
  rw [firstIndex_eq_find hbody, ← ha.length_entries, FirstMatch.find?_range'_eq_lookup]

/-! ## A loop that appends -/

/-- `for (i = 0; i < n; ++i) append(body(i));` -/
def collect (body : Nat → C α) : Nat → C (List α)
  | 0 => .ok []
  | n + 1 => do
    let xs ← collect body n
    return xs ++ [← body n]

/-- The loop over a list, where no iteration faults. -/
theorem mapM_eq_map {β : Type} {body : α → C β} {f : α → β} {xs : List α}
    (h : ∀ x ∈ xs, body x = .ok (f x)) : xs.mapM body = .ok (xs.map f) := by
  induction xs with
  | nil => rfl
  | cons x xs ih =>
    rw [List.mapM_cons, h x List.mem_cons_self, ok_bind, ih fun y hy => h y (List.mem_cons_of_mem x hy)]
    rfl

/-- Over a readable array: one item for each entry, in order. -/
theorem collect_get {β : Type} {a : CArray α} (ha : a.Readable) {body : α → C β} {f : α → β}
    (h : ∀ x ∈ a.entries, body x = .ok (f x)) :
    collect (fun index => do body (← a.get index)) a.count = .ok (a.entries.map f) := by
  have htake : ∀ n, n ≤ a.count → collect (fun index => do body (← a.get index)) n =
      .ok ((a.entries.take n).map f) := by
    intro n
    induction n with
    | zero => exact fun _ => rfl
    | succ n ih =>
      intro hn
      have hlt : n < a.entries.length := by rw [ha.length_entries]; omega
      have hget : a.get n = .ok a.entries[n] := ha.get (by omega)
      rw [collect, ih (by omega), ok_bind, hget, ok_bind, h _ (List.getElem_mem hlt), ok_bind,
        ← List.take_append_getElem hlt, List.map_append]
      rfl
  rw [htake a.count (Nat.le_refl _), ← ha.length_entries, List.take_length]

end CLib
