/-
  Keyed tables and the first-match search over them.

  1. **Program** — the C idiom `for (i = 0; i < n; ++i) if (table[i].key == code) return &table[i];
     return NULL;` is `lookup key table code`: a pointer INTO the table is an index of it, NULL is
     `none`.

  2. **Specification** — such a search returns first of all the FIRST match (`lookup_eq_some_iff`),
     and some match exactly if there is one (`lookup_ne_none_iff`).  Over a table whose keys are
     pairwise distinct (`UniqueKeys`) it is THE match (`lookup_pointsToOnly`), and searching for the
     key of a row finds that very row (`lookup_self`).

  3. **The crux (`forall_lookup_self_iff`)** — distinct keys are what this takes and no less: one
     shared key hides a row.  So "every row can be found" and "no two rows share a key" are one
     condition, whatever the table and its key are.
-/
import Mathlib.Data.List.Nodup

namespace FirstMatch

variable {ρ κ : Type}

/-- No two rows carry one key. -/
def UniqueKeys (key : ρ → κ) (table : List ρ) : Prop := (table.map key).Nodup

/-- Under unique keys an entry is told by its key. -/
theorem UniqueKeys.eq_of_key_eq {key : ρ → κ} {table : List ρ} (h : UniqueKeys key table)
    {i j : Fin table.length} (hij : key table[i] = key table[j]) : i = j := by
  apply Fin.ext
  have hi : i.val < (table.map key).length := by simp
  have hj : j.val < (table.map key).length := by simp
  have hmap : (table.map key)[i.val] = (table.map key)[j.val] := by
    rw [List.getElem_map, List.getElem_map]
    exact hij
  exact (List.Nodup.getElem_inj_iff h).mp hmap

/-- `p` is non-NULL exactly when `code` occurs in the table, and then points at the one row that
    carries exactly that code. -/
def PointsToOnly (key : ρ → κ) (table : List ρ) (code : κ) (p : Option (Fin table.length)) : Prop :=
  (p ≠ none ↔ ∃ row ∈ table, key row = code) ∧
    ∀ i, p = some i → key table[i] = code ∧ ∀ j : Fin table.length, key table[j] = code → j = i

/-! ## The search -/

variable [DecidableEq κ]

instance (key : ρ → κ) (table : List ρ) : Decidable (UniqueKeys key table) :=
  inferInstanceAs (Decidable (table.map key).Nodup)

/-- First-match search; the result points at a row. -/
def lookup (key : ρ → κ) (table : List ρ) (code : κ) : Option (Fin table.length) :=
  table.findFinIdx? fun row => decide (key row = code)

/-- What is found has the key, and nothing before it has. -/
theorem lookup_eq_some_iff {key : ρ → κ} {table : List ρ} {code : κ} {i : Fin table.length} :
    lookup key table code = some i ↔
      key table[i] = code ∧ ∀ j : Fin table.length, j < i → key table[j] ≠ code := by
  rw [lookup, List.findFinIdx?_eq_some_iff]
  simp

/-- Something is found exactly if some entry has the key. -/
theorem lookup_ne_none_iff {key : ρ → κ} {table : List ρ} {code : κ} :
    lookup key table code ≠ none ↔ ∃ row ∈ table, key row = code := by
  rw [lookup, Ne, List.findFinIdx?_eq_none_iff]
  simp

/-- The same search run over the row numbers. -/
theorem find?_range'_eq_lookup {key : ρ → κ} {table : List ρ} {code : κ} :
    (List.range' 0 table.length).find? (fun i => (table[i]?).any fun row => decide (key row = code)) =
      (lookup key table code).map Fin.val := by
  apply Option.ext
  intro i
  rw [List.find?_range'_eq_some, List.mem_range'_1, Option.map_eq_some_iff]
  constructor
  · rintro ⟨hi, ⟨-, hlt⟩, hbefore⟩
    have hlt : i < table.length := by omega
    refine ⟨⟨i, hlt⟩, lookup_eq_some_iff.mpr ⟨?_, fun j hj hkey => ?_⟩, rfl⟩
    · simpa [List.getElem?_eq_getElem hlt] using hi
    · have := hbefore j (Nat.zero_le _) hj
      simp at this
      exact this hkey
  · rintro ⟨i, hi, rfl⟩
    obtain ⟨hkey, hbefore⟩ := lookup_eq_some_iff.mp hi
    have hlt := i.isLt
    refine ⟨by simpa using hkey, by omega, fun j _ hj => ?_⟩
    have hjl : j < table.length := by omega
    simpa [List.getElem?_eq_getElem hjl] using hbefore ⟨j, hjl⟩ hj

/-- A search whose test agrees with the key comparison on every row of the table. -/
theorem findFinIdx?_eq_lookup {key : ρ → κ} {table : List ρ} {code : κ} {test : ρ → Bool}
    (h : ∀ row ∈ table, test row = decide (key row = code)) :
    table.findFinIdx? test = lookup key table code := by
  have hrow : ∀ i : Fin table.length, test table[i] = decide (key table[i] = code) :=
    fun i => h _ (List.getElem_mem i.isLt)
  apply Option.ext
  intro i
  rw [lookup, List.findFinIdx?_eq_some_iff, List.findFinIdx?_eq_some_iff]
  simp only [hrow]

/-- **A first match in a table of distinct keys is the only match.** -/
theorem lookup_pointsToOnly {key : ρ → κ} {table : List ρ} (h : UniqueKeys key table) (code : κ) :
    PointsToOnly key table code (lookup key table code) := by
  refine ⟨lookup_ne_none_iff, fun i hi => ?_⟩
  obtain ⟨hkey, -⟩ := lookup_eq_some_iff.mp hi
  exact ⟨hkey, fun j hj => h.eq_of_key_eq (hj.trans hkey.symm)⟩

/-- **Lookup inverts the key**: searching for a row's own key finds that very row. -/
theorem lookup_self {key : ρ → κ} {table : List ρ} (h : UniqueKeys key table)
    (i : Fin table.length) : lookup key table (key table[i]) = some i := by
  rw [lookup_eq_some_iff]
  refine ⟨rfl, fun j hji hj => ?_⟩
  rw [h.eq_of_key_eq hj] at hji
  exact absurd hji (Fin.lt_irrefl i)

/-- **Every row is found under its own key exactly when no two rows share one**: of two rows with
    one key the search only ever returns the first. -/
theorem forall_lookup_self_iff {key : ρ → κ} {table : List ρ} :
    (∀ i : Fin table.length, lookup key table (key table[i]) = some i) ↔ UniqueKeys key table := by
  constructor
  · intro h
    rw [UniqueKeys, List.Nodup, List.pairwise_map, List.pairwise_iff_getElem]
    intro i j hi hj hij hkey
    have hfirst : lookup key table (key table[i]) = some ⟨i, hi⟩ := h ⟨i, hi⟩
    have hsecond : lookup key table (key table[j]) = some ⟨j, hj⟩ := h ⟨j, hj⟩
    rw [hkey, hsecond, Option.some.injEq, Fin.mk.injEq] at hfirst
    omega
  · exact fun h => lookup_self h

/-- Over distinct keys the row found is the member with that key. -/
theorem lookup_get_eq_some_iff {key : ρ → κ} {table : List ρ} (h : UniqueKeys key table) {code : κ}
    {row : ρ} : (lookup key table code).map table.get = some row ↔ row ∈ table ∧ key row = code := by
  rw [Option.map_eq_some_iff]
  constructor
  · rintro ⟨i, hi, rfl⟩
    exact ⟨List.get_mem table i, (lookup_eq_some_iff.mp hi).1⟩
  · rintro ⟨hrow, rfl⟩
    obtain ⟨i, hi, rfl⟩ := List.getElem_of_mem hrow
    exact ⟨⟨i, hi⟩, lookup_self h ⟨i, hi⟩, rfl⟩

/-- Over distinct keys the order of the rows does not matter. -/
theorem lookup_get_perm {key : ρ → κ} {table table' : List ρ} (h : UniqueKeys key table)
    (hperm : table.Perm table') (code : κ) :
    (lookup key table code).map table.get = (lookup key table' code).map table'.get := by
  have h' : UniqueKeys key table' := (hperm.map key).nodup_iff.mp h
  apply Option.ext
  intro row
  rw [lookup_get_eq_some_iff h, lookup_get_eq_some_iff h', hperm.mem_iff]

/-- A grown table is searched to the end of the old one first. -/
theorem lookup_append {key : ρ → κ} {table added : List ρ} {code : κ} :
    (lookup key (table ++ added) code).map Fin.val =
      ((lookup key table code).map Fin.val).or
        (((lookup key added code).map Fin.val).map (· + table.length)) := by
  simp only [lookup, ← List.findIdx?_eq_map_findFinIdx?_val, List.findIdx?_append]

end FirstMatch
