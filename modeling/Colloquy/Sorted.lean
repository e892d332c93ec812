/-!
# Sorted tables — finite maps and sets of texts

A `TextMap` is a finite map keyed by text, held as its entries in strictly increasing key order, and
a `TextSet` is such a map without values. The order of texts is that of their code points. Holding
the entries in order makes equality of maps the same as agreement on every key (`TextMap.ext_get?`),
so two tables that answer alike are equal and are written alike.
-/

namespace Colloquy

/-- A finite map keyed by text. -/
structure TextMap (α : Type) where
  /-- The entries, in increasing key order. -/
  entries : List (String × α)
  /-- No key is repeated and the keys are in order. -/
  increasing : entries.Pairwise (fun a b => a.1 < b.1)
  deriving DecidableEq

namespace TextMap

variable {α : Type}

/-! ## Entries as plain lists -/

/-- The value filed under a key. -/
def lookup (key : String) : List (String × α) → Option α
  | [] => none
  | (k, v) :: rest => if k = key then some v else lookup key rest

/-- File a value, in place of any earlier one under the key. -/
def place (key : String) (value : α) : List (String × α) → List (String × α)
  | [] => [(key, value)]
  | (k, v) :: rest =>
    if key < k then (key, value) :: (k, v) :: rest
    else if key = k then (key, value) :: rest
    else (k, v) :: place key value rest

theorem mem_place {key : String} {value : α} {e : String × α} {l : List (String × α)}
    (h : e ∈ place key value l) : e = (key, value) ∨ e ∈ l := by
  induction l with
  | nil => simpa [place] using h
  | cons a rest ih =>
    obtain ⟨k, v⟩ := a
    simp only [place] at h
    split at h
    · simpa using h
    · split at h
      · rcases List.mem_cons.1 h with h | h
        · exact .inl h
        · exact .inr (List.mem_cons_of_mem _ h)
      · rcases List.mem_cons.1 h with h | h
        · exact .inr (h ▸ List.mem_cons_self)
        · exact (ih h).imp_right (List.mem_cons_of_mem _)

theorem place_increasing {key : String} {value : α} {l : List (String × α)}
    (h : l.Pairwise (fun a b => a.1 < b.1)) :
    (place key value l).Pairwise (fun a b => a.1 < b.1) := by
  induction l with
  | nil => simp [place]
  | cons a rest ih =>
    obtain ⟨k, v⟩ := a
    have hk : ∀ e ∈ rest, k < e.1 := fun e he => List.rel_of_pairwise_cons h he
    simp only [place]
    split
    · rename_i hlt
      refine List.pairwise_cons.2 ⟨fun e he => ?_, h⟩
      rcases List.mem_cons.1 he with rfl | he
      · exact hlt
      · exact String.lt_trans hlt (hk e he)
    · split
      · rename_i heq
        subst heq
        exact List.pairwise_cons.2 ⟨hk, h.of_cons⟩
      · rename_i hnlt hne
        refine List.pairwise_cons.2 ⟨fun e he => ?_, ih h.of_cons⟩
        rcases mem_place he with rfl | he
        · exact Decidable.byContradiction fun hn =>
            hne (String.le_antisymm (String.not_lt.1 hn) (String.not_lt.1 hnlt))
        · exact hk e he

/-! ## Operations -/

/-- The map without entries. -/
def empty : TextMap α := ⟨[], .nil⟩

instance : Inhabited (TextMap α) := ⟨empty⟩

/-- The value filed under a key. -/
def get? (m : TextMap α) (key : String) : Option α := lookup key m.entries

/-- Whether anything is filed under a key. -/
def contains (m : TextMap α) (key : String) : Bool := (m.get? key).isSome

/-- File a value, in place of any earlier one under the key. -/
def insert (m : TextMap α) (key : String) (value : α) : TextMap α :=
  ⟨place key value m.entries, place_increasing m.increasing⟩

/-- Remove what is filed under a key. -/
def erase (m : TextMap α) (key : String) : TextMap α :=
  ⟨m.entries.filter fun e => e.1 ≠ key, m.increasing.filter _⟩

/-- The keys, in increasing order. -/
def keys (m : TextMap α) : List String := m.entries.map Prod.fst

/-- The number of entries. -/
def size (m : TextMap α) : Nat := m.entries.length

/-- Whether there are no entries. -/
def isEmpty (m : TextMap α) : Bool := m.entries.isEmpty

/-- The map of a list of entries; of several under one key the last stays. -/
def ofList (l : List (String × α)) : TextMap α := l.foldl (fun m e => m.insert e.1 e.2) empty

/-! ## What the operations do to a look-up -/

theorem lookup_place_self (key : String) (value : α) (l : List (String × α)) :
    lookup key (place key value l) = some value := by
  induction l with
  | nil => simp [place, lookup]
  | cons a rest ih =>
    obtain ⟨k, v⟩ := a
    simp only [place]
    split
    · simp [lookup]
    · split
      · simp [lookup]
      · rename_i hne
        simp [lookup, Ne.symm hne, ih]

theorem lookup_place_of_ne {key other : String} (value : α) (h : key ≠ other)
    (l : List (String × α)) : lookup other (place key value l) = lookup other l := by
  induction l with
  | nil => simp [place, lookup, h]
  | cons a rest ih =>
    obtain ⟨k, v⟩ := a
    simp only [place]
    split
    · simp [lookup, h]
    · split
      · rename_i heq
        simp [lookup, h, ← heq]
      · by_cases hk : k = other <;> simp [lookup, hk, ih]

theorem lookup_filter_ne (key other : String) (l : List (String × α)) :
    lookup other (l.filter fun e => e.1 ≠ key) = if key = other then none else lookup other l := by
  induction l with
  | nil => simp [lookup]
  | cons a rest ih =>
    obtain ⟨k, v⟩ := a
    by_cases hk : k = key <;> by_cases ho : key = other <;> by_cases hko : k = other <;>
      simp_all [lookup]

@[simp] theorem get?_empty (key : String) : (empty : TextMap α).get? key = none := rfl

theorem get?_insert (m : TextMap α) (key other : String) (value : α) :
    (m.insert key value).get? other = if key = other then some value else m.get? other := by
  by_cases h : key = other
  · subst h
    simpa [insert, get?] using lookup_place_self key value m.entries
  · simpa [insert, get?, h] using lookup_place_of_ne value h m.entries

theorem get?_erase (m : TextMap α) (key other : String) :
    (m.erase key).get? other = if key = other then none else m.get? other :=
  lookup_filter_ne key other m.entries

theorem lookup_eq_some_of_mem {l : List (String × α)}
    (h : l.Pairwise (fun a b => a.1 < b.1)) {key : String} {value : α} (hm : (key, value) ∈ l) :
    lookup key l = some value := by
  induction l with
  | nil => simp at hm
  | cons a rest ih =>
    obtain ⟨k, v⟩ := a
    rcases List.mem_cons.1 hm with hm | hm
    · simp only [Prod.mk.injEq] at hm
      simp [lookup, hm]
    · have hlt : k < key := List.rel_of_pairwise_cons h hm
      have hne : k ≠ key := fun e => String.lt_irrefl key (by rwa [e] at hlt)
      simp [lookup, hne, ih h.of_cons hm]

theorem mem_of_lookup_eq_some {l : List (String × α)} {key : String} {value : α}
    (h : lookup key l = some value) : (key, value) ∈ l := by
  induction l with
  | nil => simp [lookup] at h
  | cons a rest ih =>
    obtain ⟨k, v⟩ := a
    by_cases hk : k = key
    · simp [lookup, hk] at h
      simp [hk, h]
    · simp only [lookup, hk, if_false] at h
      exact List.mem_cons_of_mem _ (ih h)

/-- **The entries are exactly the answers.** -/
theorem mem_entries {m : TextMap α} {key : String} {value : α} :
    (key, value) ∈ m.entries ↔ m.get? key = some value :=
  ⟨lookup_eq_some_of_mem m.increasing, mem_of_lookup_eq_some⟩

/-- A map without answers has no entries. -/
theorem eq_nil_of_lookup_eq_none {l : List (String × α)} (h : ∀ key, lookup key l = none) :
    l = [] := by
  cases l with
  | nil => rfl
  | cons a rest =>
    have := h a.1
    simp [lookup] at this

/-- A key below all keys is not filed. -/
theorem lookup_eq_none_of_lt {l : List (String × α)} {key : String} (h : ∀ e ∈ l, key < e.1) :
    lookup key l = none := by
  cases hl : lookup key l with
  | none => rfl
  | some v => exact absurd (h _ (mem_of_lookup_eq_some hl)) (String.lt_irrefl _)

theorem not_lt_of_lookup_eq {k k' : String} {v v' : α} {l l' : List (String × α)}
    (hl' : ((k', v') :: l').Pairwise (fun a b => a.1 < b.1))
    (h : lookup k ((k, v) :: l) = lookup k ((k', v') :: l')) : ¬ k < k' := by
  intro hlt
  have hnone : lookup k ((k', v') :: l') = none := by
    refine lookup_eq_none_of_lt fun e he => ?_
    rcases List.mem_cons.1 he with rfl | he
    · exact hlt
    · exact String.lt_trans hlt (List.rel_of_pairwise_cons hl' he)
  rw [hnone] at h
  simp [lookup] at h

theorem eq_of_lookup_eq {l l' : List (String × α)} (hl : l.Pairwise (fun a b => a.1 < b.1))
    (hl' : l'.Pairwise (fun a b => a.1 < b.1)) (h : ∀ key, lookup key l = lookup key l') :
    l = l' := by
  induction l generalizing l' with
  | nil => exact (eq_nil_of_lookup_eq_none fun key => (h key).symm).symm
  | cons a rest ih =>
    cases l' with
    | nil => exact eq_nil_of_lookup_eq_none h
    | cons a' rest' =>
      obtain ⟨k, v⟩ := a
      obtain ⟨k', v'⟩ := a'
      obtain rfl : k = k' :=
        String.le_antisymm (String.not_lt.1 (not_lt_of_lookup_eq hl (h k').symm))
          (String.not_lt.1 (not_lt_of_lookup_eq hl' (h k)))
      obtain rfl : v = v' := by simpa [lookup] using h k
      congr 1
      refine ih hl.of_cons hl'.of_cons fun key => ?_
      by_cases hk : k = key
      · subst hk
        rw [lookup_eq_none_of_lt fun e he => List.rel_of_pairwise_cons hl he,
          lookup_eq_none_of_lt fun e he => List.rel_of_pairwise_cons hl' he]
      · simpa [lookup, hk] using h key

/-- **Two maps that answer alike are equal.** -/
theorem ext_get? {m m' : TextMap α} (h : ∀ key, m.get? key = m'.get? key) : m = m' := by
  obtain ⟨l, hl⟩ := m
  obtain ⟨l', hl'⟩ := m'
  have : l = l' := eq_of_lookup_eq hl hl' h
  subst this
  rfl

/-! ## Filing entries one after the other -/

theorem get?_foldl_insert_of_not_mem {l : List (String × α)} {key : String}
    (h : ∀ e ∈ l, e.1 ≠ key) (m : TextMap α) :
    (l.foldl (fun m e => m.insert e.1 e.2) m).get? key = m.get? key := by
  induction l generalizing m with
  | nil => rfl
  | cons e l ih =>
    rw [List.foldl_cons, ih fun e' he' => h e' (List.mem_cons_of_mem e he'), get?_insert,
      if_neg (h e List.mem_cons_self)]

theorem get?_foldl_insert_of_mem {l : List (String × α)} (h : l.Pairwise fun a b => a.1 ≠ b.1)
    {key : String} {value : α} (hm : (key, value) ∈ l) (m : TextMap α) :
    (l.foldl (fun m e => m.insert e.1 e.2) m).get? key = some value := by
  induction l generalizing m with
  | nil => exact absurd hm List.not_mem_nil
  | cons e l ih =>
    rw [List.foldl_cons]
    rcases List.mem_cons.1 hm with rfl | hm
    · have hlater : ∀ e ∈ l, e.1 ≠ key := fun e he => (List.rel_of_pairwise_cons h he).symm
      rw [get?_foldl_insert_of_not_mem hlater, get?_insert, if_pos rfl]
    · exact ih h.of_cons hm _

theorem pairwise_ne (m : TextMap α) : m.entries.Pairwise fun a b => a.1 ≠ b.1 := by
  refine m.increasing.imp fun {a b} hlt heq => ?_
  rw [heq] at hlt
  exact String.lt_irrefl _ hlt

/-- **The entries of a map make the map, in whatever order they are filed.** -/
theorem ofList_eq_of_perm {l : List (String × α)} {m : TextMap α} (h : l.Perm m.entries) :
    ofList l = m := by
  have hne : l.Pairwise fun a b => a.1 ≠ b.1 :=
    (h.pairwise_iff fun {a b} hab => Ne.symm hab).2 m.pairwise_ne
  refine ext_get? fun key => ?_
  cases hkey : m.get? key with
  | some value => exact get?_foldl_insert_of_mem hne (h.mem_iff.2 (mem_entries.2 hkey)) empty
  | none =>
    refine get?_foldl_insert_of_not_mem (fun e he hek => ?_) empty
    have hentry : m.get? e.1 = some e.2 := mem_entries.1 (h.mem_iff.1 he)
    rw [hek, hkey] at hentry
    exact absurd hentry (by simp)

end TextMap

/-- A finite set of texts. -/
abbrev TextSet := TextMap Unit

namespace TextSet

/-- The set with one more member. -/
def add (s : TextSet) (item : String) : TextSet := s.insert item ()

/-- The members, in increasing order. -/
def toList (s : TextSet) : List String := s.keys

/-- The set of the members of a list. -/
def ofList (items : List String) : TextSet := items.foldl add TextMap.empty

end TextSet

end Colloquy
