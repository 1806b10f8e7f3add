/-
  Prefix-free families of texts.

  1. **Definition** — a family `enc : α → List β` is prefix free when no text of it starts another
     one.  For a finite family of concrete texts this is decidable.

  2. **Why it matters** — a concatenation `enc a ++ rest` can then be taken apart in only one way
     (`PrefixFree.append_inj`), so what a format string prints tells its fields.

  3. **Composition (`PrefixFree.prod`)** — a record printed field by field is prefix free again, so
     a whole format string is injective as soon as each of its fields, taken with the separator
     behind it, is a prefix-free family.  Only the last field may be anything at all.
-/

namespace PrefixCode

variable {α α' β : Type}

/-- No text of the family is a prefix of another one. -/
def PrefixFree (enc : α → List β) : Prop := ∀ a a', enc a <+: enc a' → a = a'

instance [DecidableEq β] {n : Nat} (enc : Fin n → List β) : Decidable (PrefixFree enc) :=
  inferInstanceAs (Decidable (∀ a a' : Fin n, enc a <+: enc a' → a = a'))

/-- **Unique splitting**: the first field of a concatenation is determined. -/
theorem PrefixFree.append_inj {enc : α → List β} (h : PrefixFree enc) {a a' : α}
    {rest rest' : List β} (he : enc a ++ rest = enc a' ++ rest') : a = a' ∧ rest = rest' := by
  have hp : enc a <+: enc a' ++ rest' := ⟨rest, he⟩
  have haa : a = a' := by
    rcases List.prefix_or_prefix_of_prefix hp (List.prefix_append _ _) with h1 | h1
    · exact h a a' h1
    · exact (h a' a h1).symm
  subst haa
  exact ⟨rfl, List.append_cancel_left he⟩

/-- Two fields in a row. -/
theorem PrefixFree.prod {enc : α → List β} {enc' : α' → List β} (h : PrefixFree enc)
    (h' : PrefixFree enc') : PrefixFree (fun p : α × α' => enc p.1 ++ enc' p.2) := by
  rintro ⟨a, b⟩ ⟨a', b'⟩ ⟨t, ht⟩
  rw [List.append_assoc] at ht
  obtain ⟨rfl, hrest⟩ := h.append_inj ht
  exact Prod.ext rfl (h' b b' ⟨t, hrest⟩)

/-- A field that ends where a separator first appears. -/
theorem append_cons_inj {a a' rest rest' : List β} {sep : β} (h : sep ∉ a) (h' : sep ∉ a')
    (he : a ++ sep :: rest = a' ++ sep :: rest') : a = a' ∧ rest = rest' := by
  induction a generalizing a' with
  | nil =>
    cases a' with
    | nil => exact ⟨rfl, (List.cons.inj he).2⟩
    | cons b a' => exact absurd ((List.cons.inj he).1 ▸ List.mem_cons_self) h'
  | cons b a ih =>
    cases a' with
    | nil => exact absurd ((List.cons.inj he).1 ▸ List.mem_cons_self) h
    | cons b' a' =>
      obtain ⟨rfl, htail⟩ := List.cons.inj he
      obtain ⟨rfl, hrest⟩ := ih (fun hb => h (List.mem_cons_of_mem _ hb))
        (fun hb => h' (List.mem_cons_of_mem _ hb)) htail
      exact ⟨rfl, hrest⟩

/-- Lists printed entry by entry are equal exactly if they agree in what the entries print. -/
theorem map_eq_map_iff {γ : Type} {f : α → β} {g : α → γ} {l l' : List α}
    (h : ∀ a ∈ l, ∀ a' ∈ l', f a = f a' ↔ g a = g a') : l.map f = l'.map f ↔ l.map g = l'.map g := by
  induction l generalizing l' with
  | nil => cases l' <;> simp
  | cons a l ih =>
    cases l' with
    | nil => simp
    | cons a' l' =>
      have htail := ih fun b hb b' hb' =>
        h b (List.mem_cons_of_mem _ hb) b' (List.mem_cons_of_mem _ hb')
      simp only [List.map_cons, List.cons.injEq, htail, h a List.mem_cons_self a' List.mem_cons_self]

end PrefixCode
