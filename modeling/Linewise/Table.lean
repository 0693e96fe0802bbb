/-!
Tables from names to entries. A table is a list of pairs, in the order in which the names were
first inserted; no name occurs twice.
-/

namespace Linewise

structure Table (Name Entry : Type) where
  pairs : List (Name × Entry)
  distinct : (pairs.map Prod.fst).Nodup
deriving Repr

namespace Table

variable {Name Entry : Type}

def empty : Table Name Entry := ⟨[], .nil⟩

def names (table : Table Name Entry) : List Name := table.pairs.map Prod.fst

def map (change : Entry → Entry) (table : Table Name Entry) : Table Name Entry where
  pairs := table.pairs.map fun pair => (pair.1, change pair.2)
  distinct := by
    rw [List.map_map]
    exact table.distinct

variable [DecidableEq Name]

private def findIn (name : Name) : List (Name × Entry) → Option Entry
  | [] => none
  | (other, entry) :: rest => if other = name then some entry else findIn name rest

def find? (table : Table Name Entry) (name : Name) : Option Entry := findIn name table.pairs

def contains (table : Table Name Entry) (name : Name) : Bool := (table.find? name).isSome

private def insertIn (name : Name) (entry : Entry) : List (Name × Entry) → List (Name × Entry)
  | [] => [(name, entry)]
  | (other, old) :: rest =>
      if other = name then (name, entry) :: rest else (other, old) :: insertIn name entry rest

private theorem mem_names_insertIn {name other : Name} {entry : Entry}
    {pairs : List (Name × Entry)}
    (member : other ∈ (insertIn name entry pairs).map Prod.fst) :
    other = name ∨ other ∈ pairs.map Prod.fst := by
  induction pairs with
  | nil => simpa [insertIn] using member
  | cons pair rest induction =>
      obtain ⟨present, old⟩ := pair
      by_cases same : present = name
      · subst same
        exact .inr (by simpa [insertIn] using member)
      · rw [insertIn, if_neg same, List.map_cons] at member
        rcases List.mem_cons.mp member with equal | member
        · exact .inr (by simp [equal])
        · rcases induction member with equal | member
          · exact .inl equal
          · exact .inr (List.mem_cons_of_mem _ member)

private theorem insertIn_distinct (name : Name) (entry : Entry) {pairs : List (Name × Entry)}
    (distinct : (pairs.map Prod.fst).Nodup) :
    ((insertIn name entry pairs).map Prod.fst).Nodup := by
  induction pairs with
  | nil => simp [insertIn]
  | cons pair rest induction =>
      obtain ⟨present, old⟩ := pair
      have parts := List.nodup_cons.mp distinct
      by_cases same : present = name
      · subst same
        simpa [insertIn] using distinct
      · rw [insertIn, if_neg same, List.map_cons]
        apply List.nodup_cons.mpr
        refine ⟨fun member => ?_, induction parts.2⟩
        rcases mem_names_insertIn member with equal | member
        · exact same equal
        · exact parts.1 member

def insert (table : Table Name Entry) (name : Name) (entry : Entry) : Table Name Entry :=
  ⟨insertIn name entry table.pairs, insertIn_distinct name entry table.distinct⟩

def erase (table : Table Name Entry) (name : Name) : Table Name Entry where
  pairs := table.pairs.filter fun pair => pair.1 ≠ name
  distinct := table.distinct.sublist (List.filter_sublist.map Prod.fst)

def update (table newer : Table Name Entry) : Table Name Entry :=
  newer.pairs.foldl (fun result pair => result.insert pair.1 pair.2) table

/-! What each operation does to look-ups. -/

private theorem findIn_insertIn (name other : Name) (entry : Entry)
    (pairs : List (Name × Entry)) :
    findIn other (insertIn name entry pairs) =
      if name = other then some entry else findIn other pairs := by
  induction pairs with
  | nil => simp [insertIn, findIn]
  | cons pair rest induction =>
      obtain ⟨present, old⟩ := pair
      by_cases same : present = name
      · subst same
        by_cases equal : present = other <;> simp [insertIn, findIn, equal]
      · by_cases equal : present = other
        · subst equal
          simp [insertIn, findIn, same, Ne.symm same]
        · simp [insertIn, findIn, same, equal, induction]

theorem find?_insert (table : Table Name Entry) (name other : Name) (entry : Entry) :
    (table.insert name entry).find? other =
      if name = other then some entry else table.find? other :=
  findIn_insertIn name other entry table.pairs

@[simp] theorem find?_insert_self (table : Table Name Entry) (name : Name) (entry : Entry) :
    (table.insert name entry).find? name = some entry := by
  simp [find?_insert]

theorem find?_insert_of_ne (table : Table Name Entry) {name other : Name} (entry : Entry)
    (different : name ≠ other) : (table.insert name entry).find? other = table.find? other := by
  rw [find?_insert, if_neg different]

private theorem findIn_filter (name other : Name) (pairs : List (Name × Entry)) :
    findIn other (pairs.filter fun pair => pair.1 ≠ name) =
      if name = other then none else findIn other pairs := by
  induction pairs with
  | nil => simp [findIn]
  | cons pair rest induction =>
      obtain ⟨present, old⟩ := pair
      by_cases same : present = name
      · subst same
        by_cases equal : present = other <;> simp_all [findIn]
      · by_cases equal : present = other
        · subst equal
          simp [findIn, same, Ne.symm same]
        · simp_all [findIn]

theorem find?_erase (table : Table Name Entry) (name other : Name) :
    (table.erase name).find? other = if name = other then none else table.find? other :=
  findIn_filter name other table.pairs

theorem find?_erase_of_ne (table : Table Name Entry) {name other : Name}
    (different : name ≠ other) : (table.erase name).find? other = table.find? other := by
  rw [find?_erase, if_neg different]

theorem contains_of_find? {table : Table Name Entry} {name : Name} {entry : Entry}
    (found : table.find? name = some entry) : table.contains name = true := by
  rw [contains, found]
  rfl

theorem contains_insert (table : Table Name Entry) (name other : Name) (entry : Entry) :
    (table.insert name entry).contains other = (decide (name = other) || table.contains other) := by
  rw [contains, contains, find?_insert]
  split <;> simp [*]

theorem contains_erase (table : Table Name Entry) (name other : Name) :
    (table.erase name).contains other = (!decide (name = other) && table.contains other) := by
  rw [contains, contains, find?_erase]
  split <;> simp [*]

theorem find?_map (change : Entry → Entry) (table : Table Name Entry) (name : Name) :
    (table.map change).find? name = (table.find? name).map change := by
  unfold find? map
  simp only
  induction table.pairs with
  | nil => rfl
  | cons pair rest induction =>
      by_cases same : pair.1 = name <;> simp [findIn, same, induction]

@[simp] theorem find?_empty (name : Name) : (empty : Table Name Entry).find? name = none := rfl

/-! ## Updates -/

private theorem findIn_eq_none {name : Name} {pairs : List (Name × Entry)}
    (absent : name ∉ pairs.map Prod.fst) : findIn name pairs = none := by
  induction pairs with
  | nil => rfl
  | cons pair rest induction =>
      obtain ⟨present, entry⟩ := pair
      rw [List.map_cons, List.mem_cons, not_or] at absent
      rw [findIn, if_neg (Ne.symm absent.1)]
      exact induction absent.2

private theorem find?_foldl_insert (name : Name) (pairs : List (Name × Entry))
    (distinct : (pairs.map Prod.fst).Nodup) (table : Table Name Entry) :
    (pairs.foldl (fun result pair => result.insert pair.1 pair.2) table).find? name =
      (findIn name pairs).or (table.find? name) := by
  induction pairs generalizing table with
  | nil => rfl
  | cons pair rest induction =>
      obtain ⟨present, entry⟩ := pair
      have parts := List.nodup_cons.mp distinct
      rw [List.foldl_cons, induction parts.2, findIn, find?_insert]
      by_cases same : present = name
      · subst same
        simp [findIn_eq_none parts.1]
      · simp [same]

theorem find?_update (table newer : Table Name Entry) (name : Name) :
    (table.update newer).find? name = (newer.find? name).or (table.find? name) :=
  find?_foldl_insert name newer.pairs newer.distinct table

private theorem insertIn_append {name : Name} {entry : Entry} {front rest : List (Name × Entry)}
    (absent : name ∉ front.map Prod.fst) :
    insertIn name entry (front ++ rest) = front ++ insertIn name entry rest := by
  induction front with
  | nil => rfl
  | cons pair front induction =>
      obtain ⟨present, old⟩ := pair
      rw [List.map_cons, List.mem_cons, not_or] at absent
      rw [List.cons_append, insertIn, if_neg (Ne.symm absent.1), induction absent.2,
        List.cons_append]

private theorem names_prefix_insertIn (name : Name) (entry : Entry) (pairs : List (Name × Entry)) :
    pairs.map Prod.fst <+: (insertIn name entry pairs).map Prod.fst := by
  induction pairs with
  | nil => exact List.nil_prefix
  | cons pair rest induction =>
      obtain ⟨present, old⟩ := pair
      by_cases same : present = name
      · subst same
        simp [insertIn]
      · rw [insertIn, if_neg same, List.map_cons, List.map_cons]
        exact (List.prefix_cons_inj present).mpr induction

theorem names_prefix_insert (table : Table Name Entry) (name : Name) (entry : Entry) :
    table.names <+: (table.insert name entry).names :=
  names_prefix_insertIn name entry table.pairs

theorem mem_names_insert {table : Table Name Entry} {name other : Name} {entry : Entry}
    (member : other ∈ (table.insert name entry).names) : other = name ∨ other ∈ table.names :=
  mem_names_insertIn member

theorem mem_names_erase {table : Table Name Entry} {name other : Name}
    (member : other ∈ (table.erase name).names) : other ∈ table.names :=
  (List.filter_sublist.map Prod.fst).subset member

theorem mem_names_update {table newer : Table Name Entry} {name : Name}
    (member : name ∈ (table.update newer).names) : name ∈ newer.names ∨ name ∈ table.names := by
  unfold update at member
  unfold names at member ⊢
  generalize newer.pairs = pairs at member ⊢
  induction pairs generalizing table with
  | nil => exact .inr member
  | cons pair rest induction =>
      rcases induction member with later | before
      · exact .inl (List.mem_cons_of_mem _ later)
      · rcases mem_names_insert before with rfl | present
        · exact .inl List.mem_cons_self
        · exact .inr present

theorem names_prefix_update (table newer : Table Name Entry) :
    table.names <+: (table.update newer).names := by
  unfold update
  generalize newer.pairs = pairs
  induction pairs generalizing table with
  | nil => exact List.prefix_rfl
  | cons pair rest induction =>
      exact (table.names_prefix_insert pair.1 pair.2).trans (induction _)

private theorem pairs_foldl_insert {pairs front old : List (Name × Entry)}
    {table : Table Name Entry} (shape : table.pairs = front ++ old)
    (distinct : ((front ++ pairs).map Prod.fst).Nodup)
    (names : old.map Prod.fst <+: pairs.map Prod.fst) :
    (pairs.foldl (fun result pair => result.insert pair.1 pair.2) table).pairs =
      front ++ pairs := by
  -- The entries in front are in place, those of the old names are still to be replaced.
  induction pairs generalizing front old table with
  | nil =>
      have none_left : old = [] := List.map_eq_nil_iff.mp (List.prefix_nil.mp names)
      rw [List.foldl_nil, shape, none_left]
  | cons pair rest induction =>
      obtain ⟨name, entry⟩ := pair
      have absent : name ∉ front.map Prod.fst := by
        intro member
        rw [List.map_append, List.map_cons] at distinct
        exact (List.nodup_append.mp distinct).2.2 name member name List.mem_cons_self rfl
      have inserted : (table.insert name entry).pairs = front ++ insertIn name entry old := by
        rw [← insertIn_append absent, ← shape]
        rfl
      have regrouped : front ++ (name, entry) :: rest = (front ++ [(name, entry)]) ++ rest := by
        rw [List.append_assoc, List.singleton_append]
      rw [List.foldl_cons, regrouped]
      rw [regrouped] at distinct
      cases old with
      | nil =>
          have placed : (table.insert name entry).pairs = (front ++ [(name, entry)]) ++ [] := by
            rw [inserted, insertIn, List.append_nil]
          exact induction placed distinct List.nil_prefix
      | cons replaced old =>
          rw [List.map_cons, List.map_cons, List.cons_prefix_cons] at names
          refine induction ?_ distinct names.2
          rw [inserted, insertIn, if_pos names.1, List.append_assoc, List.singleton_append]

/-- A newer table that has the names of a table in their places, and perhaps more after them,
replaces it. -/
theorem update_eq_of_prefix {table newer : Table Name Entry} (names : table.names <+: newer.names) :
    table.update newer = newer := by
  have pairs : (table.update newer).pairs = newer.pairs :=
    pairs_foldl_insert (List.nil_append _).symm newer.distinct names
  generalize table.update newer = updated at pairs
  obtain ⟨updated, distinct⟩ := updated
  obtain ⟨newer, newerDistinct⟩ := newer
  cases pairs
  rfl

@[simp] theorem update_self (table : Table Name Entry) : table.update table = table :=
  update_eq_of_prefix List.prefix_rfl

end Table

end Linewise
