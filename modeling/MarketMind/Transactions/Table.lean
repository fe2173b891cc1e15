import Mathlib.Data.List.Nodup

/-!
Owns tables: lists of rows in the order of their creation, no two of which have
the same key. The key of a row never changes, so a table is known by its lookups.

Does not own what the rows are.
-/

namespace MarketMind.Transactions

/-- Rows that carry the number under which they are found. -/
class Keyed (Row : Type) where
  key : Row → Nat

/-- Rows with pairwise different keys, oldest first. -/
structure Table (Row : Type) [Keyed Row] where
  rows : List Row
  distinct : (rows.map Keyed.key).Nodup

namespace Table

variable {Row : Type} [Keyed Row]

theorem eq_of_rows {left right : Table Row} (same : left.rows = right.rows) : left = right := by
  cases left
  cases right
  cases same
  rfl

instance [DecidableEq Row] : DecidableEq (Table Row) := fun _ _ =>
  decidable_of_iff _ ⟨eq_of_rows, fun same => congrArg rows same⟩

def empty : Table Row := ⟨[], List.nodup_nil⟩

/-- The row with the given key. -/
def find (table : Table Row) (key : Nat) : Option Row :=
  table.rows.find? (Keyed.key · = key)

/-- The keys of the rows that `selected` picks, oldest first. -/
def keysOf (table : Table Row) (selected : Row → Bool) : List Nat :=
  (table.rows.filter selected).map Keyed.key

/-- Append a row, unless its key is in use. -/
def insert (table : Table Row) (row : Row) : Table Row :=
  if fresh : Keyed.key row ∉ table.rows.map Keyed.key then
    { rows := table.rows ++ [row]
      distinct := by
        rw [List.map_append, List.map_singleton]
        exact table.distinct.append (List.nodup_singleton _) (by simpa using fresh) }
  else table

/-- Append a row, unless one of the rows clashes with it. -/
def insertUnless (table : Table Row) (clash : Row → Bool) (row : Row) : Table Row :=
  if table.rows.any clash then table else table.insert row

/-- Change the rows that `matching` picks. -/
def update (table : Table Row) (matching : Row → Bool) (change : Row → Row)
    (sameKey : ∀ row, Keyed.key (change row) = Keyed.key row := by exact fun _ => rfl) :
    Table Row where
  rows := table.rows.map fun row => if matching row then change row else row
  distinct := by
    have keys : (table.rows.map fun row => if matching row then change row else row).map Keyed.key
        = table.rows.map Keyed.key := by
      rw [List.map_map]
      apply List.map_congr_left
      intro row _
      dsimp only [Function.comp]
      split
      · exact sameKey row
      · rfl
    rw [keys]
    exact table.distinct

/-- Delete the rows that `kept` does not pick. -/
def retain (table : Table Row) (kept : Row → Bool) : Table Row where
  rows := table.rows.filter kept
  distinct := table.distinct.sublist (List.filter_sublist.map _)

/-- A key that no row has. -/
def freshKey (table : Table Row) (choice : Nat) : Nat :=
  table.rows.foldr (fun row bound => max (Keyed.key row + 1) bound) 0 + choice

/-- Change the row with the given key. -/
def modify (table : Table Row) (key : Nat) (change : Row → Row)
    (sameKey : ∀ row, Keyed.key (change row) = Keyed.key row := by exact fun _ => rfl) :
    Table Row :=
  table.update (Keyed.key · = key) change sameKey

variable {table : Table Row} {key : Nat} {row : Row} {matching selected : Row → Bool}
  {change : Row → Row} {sameKey : ∀ row, Keyed.key (change row) = Keyed.key row}

theorem key_of_find (found : table.find key = some row) : Keyed.key row = key := by
  simpa using List.find?_some found

theorem mem_of_find (found : table.find key = some row) : row ∈ table.rows :=
  List.mem_of_find?_eq_some found

/-- A row of the table is the one that its key finds. -/
theorem find_of_mem (member : row ∈ table.rows) : table.find (Keyed.key row) = some row := by
  obtain ⟨rows, distinct⟩ := table
  unfold find
  induction rows with
  | nil => cases member
  | cons head rest inductionHypothesis =>
      rw [List.map_cons, List.nodup_cons] at distinct
      rcases List.mem_cons.mp member with rfl | later
      · exact List.find?_cons_of_pos (by simp)
      · have apart : Keyed.key head ≠ Keyed.key row := by
          intro same
          exact distinct.1 (same ▸ List.mem_map_of_mem later)
        rw [List.find?_cons_of_neg (by simpa using apart)]
        exact inductionHypothesis distinct.2 later

theorem find_eq_none : table.find key = none ↔ key ∉ table.rows.map Keyed.key := by
  unfold find
  rw [List.find?_eq_none]
  simp

@[simp] theorem find_empty : (empty : Table Row).find key = none := rfl

theorem rows_insert (fresh : table.find (Keyed.key row) = none) :
    (table.insert row).rows = table.rows ++ [row] := by
  unfold insert
  rw [dif_pos (find_eq_none.mp fresh)]

/-- A row whose key is in use is not inserted. -/
theorem insert_of_used {old : Row} (used : table.find (Keyed.key row) = some old) :
    table.insert row = table := by
  unfold insert
  rw [dif_neg]
  intro fresh
  rw [← find_eq_none, used] at fresh
  cases fresh

theorem mem_insert {other : Row} (member : other ∈ (table.insert row).rows) :
    other ∈ table.rows ∨ other = row := by
  cases known : table.find (Keyed.key row) with
  | some old =>
      rw [insert_of_used known] at member
      exact .inl member
  | none =>
      rw [rows_insert known] at member
      simpa using member

theorem find_insert_self (fresh : table.find (Keyed.key row) = none) :
    (table.insert row).find (Keyed.key row) = some row := by
  have rows := rows_insert fresh
  unfold find at fresh ⊢
  rw [rows, List.find?_append, fresh]
  simp

theorem find_insert_of_ne (apart : key ≠ Keyed.key row) :
    (table.insert row).find key = table.find key := by
  cases known : table.find (Keyed.key row) with
  | some old => rw [insert_of_used known]
  | none =>
      have rows := rows_insert known
      unfold find
      rw [rows, List.find?_append]
      simp [apart.symm]

/-- What was found before an insertion is found after it. -/
theorem find_insert_of_found {old : Row} (found : table.find key = some old) :
    (table.insert row).find key = some old := by
  by_cases same : key = Keyed.key row
  · subst same
    rw [insert_of_used found]
    exact found
  · rw [find_insert_of_ne same]
    exact found

theorem mem_of_insertUnless {other : Row} {clash : Row → Bool}
    (member : other ∈ (table.insertUnless clash row).rows) : other ∈ table.rows ∨ other = row := by
  unfold insertUnless at member
  split at member
  · exact .inl member
  · exact mem_insert member

theorem insertUnless_of_free {clash : Row → Bool} (free : table.rows.any clash = false) :
    table.insertUnless clash row = table.insert row := by
  unfold insertUnless
  rw [if_neg (by simp [free])]

theorem find_insertUnless_of_found {old : Row} {clash : Row → Bool}
    (found : table.find key = some old) : (table.insertUnless clash row).find key = some old := by
  unfold insertUnless
  split
  · exact found
  · exact find_insert_of_found found

theorem find_insertUnless_of_ne {clash : Row → Bool} (apart : key ≠ Keyed.key row) :
    (table.insertUnless clash row).find key = table.find key := by
  unfold insertUnless
  split
  · rfl
  · exact find_insert_of_ne apart

theorem find_update : (table.update matching change sameKey).find key =
    (table.find key).map fun row => if matching row then change row else row := by
  obtain ⟨rows, distinct⟩ := table
  unfold find update
  dsimp only
  clear distinct
  induction rows with
  | nil => rfl
  | cons head rest inductionHypothesis =>
      have sameHead : Keyed.key (if matching head then change head else head) = Keyed.key head := by
        split
        · exact sameKey head
        · rfl
      rw [List.map_cons, List.find?_cons, List.find?_cons, sameHead]
      cases decide (Keyed.key head = key) with
      | true => rfl
      | false => exact inductionHypothesis

theorem find_update_of_found (found : table.find key = some row) :
    (table.update matching change sameKey).find key =
      some (if matching row then change row else row) := by
  rw [find_update, found, Option.map_some]

/-- What is found after an update was found before it. -/
theorem of_find_update (found : (table.update matching change sameKey).find key = some row) :
    ∃ old, table.find key = some old ∧ row = if matching old then change old else old := by
  rw [find_update, Option.map_eq_some_iff] at found
  obtain ⟨old, known, same⟩ := found
  exact ⟨old, known, same.symm⟩

theorem of_find_insert {other : Row} (found : (table.insert row).find key = some other) :
    table.find key = some other ∨ other = row ∧ key = Keyed.key row := by
  by_cases same : key = Keyed.key row
  · subst same
    cases known : table.find (Keyed.key row) with
    | some old =>
        rw [insert_of_used known, known] at found
        exact .inl found
    | none =>
        rw [find_insert_self known] at found
        exact .inr ⟨(Option.some.inj found).symm, rfl⟩
  · rw [find_insert_of_ne same] at found
    exact .inl found

/-- What is found after an insertion was found before it, or is the new row, which clashes
with no other. -/
theorem of_find_insertUnless {other : Row} {clash : Row → Bool}
    (found : (table.insertUnless clash row).find key = some other) :
    table.find key = some other ∨
      other = row ∧ key = Keyed.key row ∧ table.rows.any clash = false := by
  unfold insertUnless at found
  split at found
  · exact .inl found
  · next free =>
    exact (of_find_insert found).imp_right fun ⟨same, sameKey⟩ =>
      ⟨same, sameKey, (Bool.not_eq_true _).mp free⟩

/-- An update of rows under other keys. -/
theorem find_update_of_notMem {keys : List Nat} {allowed : Row → Bool} (apart : key ∉ keys) :
    (table.update (fun row => Keyed.key row ∈ keys && allowed row) change sameKey).find key =
      table.find key := by
  rw [find_update]
  cases found : table.find key with
  | none => rfl
  | some row => simp [key_of_find found, apart]

/-- An update of the row under another key. -/
theorem find_update_of_ne {other : Nat} {allowed : Row → Bool} (apart : other ≠ key) :
    (table.update (fun row => Keyed.key row = key && allowed row) change sameKey).find other =
      table.find other := by
  rw [find_update]
  cases found : table.find other with
  | none => rfl
  | some row => simp [key_of_find found, apart]

theorem find_modify_self :
    (table.modify key change sameKey).find key = (table.find key).map change := by
  unfold modify
  rw [find_update]
  cases found : table.find key with
  | none => rfl
  | some row => simp [key_of_find found]

theorem find_modify_of_ne {other : Nat} (apart : other ≠ key) :
    (table.modify key change sameKey).find other = table.find other := by
  unfold modify
  rw [find_update]
  cases found : table.find other with
  | none => rfl
  | some row => simp [key_of_find found, apart]

theorem find_modify {other : Nat} : (table.modify key change sameKey).find other =
    if other = key then (table.find other).map change else table.find other := by
  split
  · next same =>
    subst same
    exact find_modify_self
  · next apart => exact find_modify_of_ne apart

theorem keysOf_insert (fresh : table.find (Keyed.key row) = none) :
    (table.insert row).keysOf selected =
      table.keysOf selected ++ if selected row then [Keyed.key row] else [] := by
  unfold keysOf
  rw [rows_insert fresh, List.filter_append, List.map_append]
  cases picked : selected row with
  | true => simp [picked]
  | false => simp [picked]

/-- An update that picks no row in or out leaves the selection as it is. -/
theorem keysOf_update
    (stable : ∀ row, matching row = true → selected (change row) = selected row) :
    (table.update matching change sameKey).keysOf selected = table.keysOf selected := by
  obtain ⟨rows, distinct⟩ := table
  unfold keysOf update
  dsimp only
  clear distinct
  induction rows with
  | nil => rfl
  | cons head rest inductionHypothesis =>
      rw [List.map_cons, List.filter_cons, List.filter_cons]
      cases chosen : matching head with
      | false =>
          simp only [Bool.false_eq_true, if_false]
          split
          · rw [List.map_cons, List.map_cons, inductionHypothesis]
          · exact inductionHypothesis
      | true =>
          simp only [if_true, stable head chosen]
          split
          · rw [List.map_cons, List.map_cons, inductionHypothesis, sameKey]
          · exact inductionHypothesis

/-- An insertion beside the selection leaves it as it is. -/
theorem keysOf_insertUnless {clash : Row → Bool} (beside : selected row = false) :
    (table.insertUnless clash row).keysOf selected = table.keysOf selected := by
  unfold insertUnless
  split
  · rfl
  · cases known : table.find (Keyed.key row) with
    | some old => rw [insert_of_used known]
    | none =>
        rw [keysOf_insert known, beside]
        exact List.append_nil _

theorem keysOf_retain {kept : Row → Bool}
    (stable : ∀ row ∈ table.rows, selected row = true → kept row = true) :
    (table.retain kept).keysOf selected = table.keysOf selected := by
  unfold keysOf retain
  dsimp only
  rw [List.filter_filter]
  congr 1
  refine List.filter_congr fun row member => ?_
  cases picked : selected row with
  | true => simp [stable row member picked]
  | false => simp

theorem mem_keysOf : key ∈ table.keysOf selected ↔
    ∃ row, table.find key = some row ∧ selected row = true := by
  unfold keysOf
  rw [List.mem_map]
  constructor
  · rintro ⟨row, member, rfl⟩
    rw [List.mem_filter] at member
    exact ⟨row, find_of_mem member.1, member.2⟩
  · rintro ⟨row, found, picked⟩
    exact ⟨row, List.mem_filter.mpr ⟨mem_of_find found, picked⟩, key_of_find found⟩

theorem keysOf_eq_nil : table.keysOf selected = [] ↔ table.rows.any selected = false := by
  unfold keysOf
  simp

theorem find_retain {kept : Row → Bool} :
    (table.retain kept).find key = (table.find key).filter kept := by
  cases found : table.find key with
  | none =>
      rw [find_eq_none] at found
      refine find_eq_none.mpr fun member => found ?_
      obtain ⟨row, inside, same⟩ := List.mem_map.mp member
      exact List.mem_map.mpr ⟨row, (List.mem_filter.mp inside).1, same⟩
  | some row =>
      have inside := mem_of_find found
      have same := key_of_find found
      cases picked : kept row with
      | true =>
          have remains : row ∈ (table.retain kept).rows := List.mem_filter.mpr ⟨inside, picked⟩
          rw [← same, find_of_mem remains]
          simp [Option.filter, picked]
      | false =>
          simp only [Option.filter, picked, Bool.false_eq_true, if_false]
          refine find_eq_none.mpr fun member => ?_
          obtain ⟨other, remains, sameKey⟩ := List.mem_map.mp member
          obtain ⟨otherInside, otherPicked⟩ := List.mem_filter.mp remains
          have found' := find_of_mem otherInside
          rw [sameKey, found] at found'
          obtain rfl := Option.some.inj found'
          rw [picked] at otherPicked
          cases otherPicked

theorem mem_retain {kept : Row → Bool} :
    row ∈ (table.retain kept).rows ↔ row ∈ table.rows ∧ kept row = true := List.mem_filter

theorem find_freshKey (choice : Nat) : table.find (table.freshKey choice) = none := by
  have below : ∀ rows : List Row, ∀ row ∈ rows,
      Keyed.key row < rows.foldr (fun row bound => max (Keyed.key row + 1) bound) 0 := by
    intro rows
    induction rows with
    | nil => nofun
    | cons head rest inductionHypothesis =>
        intro row member
        rw [List.foldr_cons]
        rcases List.mem_cons.mp member with rfl | later
        · omega
        · have := inductionHypothesis row later
          omega
  rw [find_eq_none, List.mem_map]
  rintro ⟨row, member, same⟩
  have := below table.rows row member
  unfold freshKey at same
  omega

/-! ### Fixed columns -/

theorem prefix_insert {Fixed : Type} {fixed : Row → Fixed} :
    table.rows.map fixed <+: (table.insert row).rows.map fixed := by
  unfold insert
  split
  · rw [List.map_append]
    exact List.prefix_append _ _
  · exact List.prefix_rfl

/-- Changes of other columns leave the fixed ones as they are. -/
theorem prefix_update {Row Fixed : Type} {fixed : Row → Fixed} {rows : List Row}
    {matching : Row → Bool} {change : Row → Row}
    (keeps : ∀ row, fixed (change row) = fixed row) :
    rows.map fixed <+: (rows.map fun row => if matching row then change row else row).map fixed := by
  have same : (rows.map fun row => if matching row then change row else row).map fixed =
      rows.map fixed := by
    rw [List.map_map]
    refine List.map_congr_left fun row _ => ?_
    dsimp only [Function.comp]
    split
    · exact keeps row
    · rfl
  exact same ▸ List.prefix_rfl

end Table

end MarketMind.Transactions
