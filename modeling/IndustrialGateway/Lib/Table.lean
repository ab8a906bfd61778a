import IndustrialGateway.Lib.OrderedDict
import Mathlib.Data.Int.Interval
import Mathlib.Data.Int.Notation
import Mathlib.Data.List.Sort
import Mathlib.Data.Prod.Lex
import Mathlib.Data.String.Basic

/-!
# Tables with automatic ids

A table gives each inserted row the id after the last one it ever gave out, so
an id is not used again after its row is gone. The field `bounded` keeps the
next id free and the ids positive. Reads come back in the order of a key; rows with one key stay in
the order of their ids.
-/

structure Table (α : Type) where
  rows : OrderedDict Int α
  lastId : Nat
  bounded : ∀ id ∈ rows.keys, 0 < id ∧ id ≤ lastId

namespace Table

variable {α β : Type}

@[ext] theorem ext {t u : Table α} (hr : t.rows = u.rows) (hl : t.lastId = u.lastId) : t = u := by
  cases t; cases u; cases hr; cases hl; rfl

instance [DecidableEq α] : DecidableEq (Table α) := fun t u =>
  decidable_of_iff (t.rows = u.rows ∧ t.lastId = u.lastId)
    ⟨fun h => ext h.1 h.2, fun h => h ▸ ⟨rfl, rfl⟩⟩

def empty : Table α := ⟨∅, 0, by simp [OrderedDict.keys]⟩

instance : EmptyCollection (Table α) := ⟨empty⟩

def get? (t : Table α) (id : Int) : Option α := t.rows.get? id

def nextId (t : Table α) : Int := t.lastId + 1

def insert (t : Table α) (row : α) : Table α where
  rows := t.rows.set t.nextId row
  lastId := t.lastId + 1
  bounded := by
    intro id h
    rcases OrderedDict.mem_keys_set.mp h with h | h
    · rw [h, nextId]
      omega
    · have := t.bounded id h
      omega

/-- Nothing happens when no row has the id. -/
def update (t : Table α) (id : Int) (row : α) : Table α :=
  if h : (t.get? id).isSome then
    { t with
      rows := t.rows.set id row
      bounded := by
        intro j hj
        rcases OrderedDict.mem_keys_set.mp hj with hj | hj
        · exact hj ▸ t.bounded id (OrderedDict.mem_keys_iff.mpr (Option.isSome_iff_exists.mp h))
        · exact t.bounded j hj }
  else t

/-- The rows that satisfy a condition stay. -/
def filter (t : Table α) (p : Int → α → Bool) : Table α where
  rows := t.rows.filter p
  lastId := t.lastId
  bounded := fun id h => t.bounded id (OrderedDict.keys_filter_subset h)

-- ---------------------------------------------------------------------------
-- Lookups
-- ---------------------------------------------------------------------------

@[simp] theorem get?_empty (id : Int) : (∅ : Table α).get? id = none := rfl

theorem get?_eq_none_of_lt {t : Table α} {id : Int} (h : t.lastId < id) : t.get? id = none := by
  rw [get?, OrderedDict.get?_eq_none]
  intro hm
  have := t.bounded id hm
  omega

theorem get?_nextId (t : Table α) : t.get? t.nextId = none :=
  get?_eq_none_of_lt (Int.lt_succ _)

theorem get?_insert (t : Table α) (row : α) (id : Int) :
    (t.insert row).get? id = if t.nextId = id then some row else t.get? id :=
  OrderedDict.get?_set ..

theorem get?_insert_of_eq_some {t : Table α} {id : Int} {old : α} (h : t.get? id = some old) (row : α) :
    (t.insert row).get? id = some old := by
  have hne : t.nextId ≠ id := by
    rintro rfl
    rw [get?_nextId] at h
    cases h
  rw [get?_insert, if_neg hne, h]

theorem get?_update (t : Table α) (i : Int) (row : α) (id : Int) :
    (t.update i row).get? id = if i = id then (t.get? id).map fun _ => row else t.get? id := by
  rw [update]
  split
  · rename_i h
    rw [get?, OrderedDict.get?_set]
    split
    · rename_i hi
      obtain ⟨old, ho⟩ := Option.isSome_iff_exists.mp (hi ▸ h)
      simp [ho]
    · rfl
  · rename_i h
    split
    · rename_i hi
      simp [hi ▸ Option.not_isSome_iff_eq_none.mp h]
    · rfl

theorem update_of_get?_eq_none {t : Table α} {i : Int} (h : t.get? i = none) (row : α) :
    t.update i row = t := by
  rw [update, dif_neg]
  simp [h]

theorem lastId_update (t : Table α) (i : Int) (row : α) : (t.update i row).lastId = t.lastId := by
  rw [update]
  split <;> rfl

theorem get?_filter (t : Table α) (p : Int → α → Bool) (id : Int) :
    (t.filter p).get? id = (t.get? id).filter (p id) := OrderedDict.get?_filter ..

theorem isSome_get?_update (t : Table α) (i : Int) (row : α) (id : Int) :
    ((t.update i row).get? id).isSome = (t.get? id).isSome := by
  rw [get?_update]
  split <;> simp

/-- There are no more rows than ids were given out. -/
theorem length_le_lastId (t : Table α) : t.rows.entries.length ≤ t.lastId := by
  have hsub : t.rows.keys.toFinset ⊆ Finset.Icc 1 (t.lastId : Int) := by
    intro id hid
    have := t.bounded id (List.mem_toFinset.mp hid)
    exact Finset.mem_Icc.mpr ⟨by omega, this.2⟩
  have hcard := Finset.card_le_card hsub
  rw [OrderedDict.keys, List.toFinset_card_of_nodup t.rows.nodup, Int.card_Icc, List.length_map]
    at hcard
  omega

theorem keys_update (t : Table α) (i : Int) (row : α) : (t.update i row).rows.keys = t.rows.keys := by
  rw [update]
  split
  · rename_i h
    have hmem : i ∈ t.rows.keys := OrderedDict.mem_keys_iff.mpr (Option.isSome_iff_exists.mp h)
    rw [OrderedDict.keys_set, if_pos hmem]
  · rfl

theorem length_update (t : Table α) (i : Int) (row : α) :
    (t.update i row).rows.entries.length = t.rows.entries.length := by
  have hkeys := congrArg List.length (keys_update t i row)
  rw [OrderedDict.keys, OrderedDict.keys, List.length_map, List.length_map] at hkeys
  exact hkeys

theorem entries_insert (t : Table α) (row : α) :
    (t.insert row).rows.entries = t.rows.entries ++ [(t.nextId, row)] := by
  apply OrderedDict.entries_set_of_not_mem
  intro h
  have := t.bounded _ h
  simp only [nextId] at this
  omega

-- ---------------------------------------------------------------------------
-- Ids in the course of a run
-- ---------------------------------------------------------------------------

/-- The ids that had been given out before are not given out anew. -/
structure Grown (t u : Table α) : Prop where
  lastId : t.lastId ≤ u.lastId
  gone : ∀ id ≤ (t.lastId : Int), t.get? id = none → u.get? id = none

namespace Grown

variable {t u v : Table α}

theorem refl (t : Table α) : Grown t t := ⟨le_refl _, fun _ _ h => h⟩

theorem trans (ht : Grown t u) (hu : Grown u v) : Grown t v where
  lastId := ht.lastId.trans hu.lastId
  gone id hid h := hu.gone id (hid.trans (Int.ofNat_le.mpr ht.lastId)) (ht.gone id hid h)

theorem insert (t : Table α) (row : α) : Grown t (t.insert row) where
  lastId := Nat.le_succ _
  gone id hid h := by
    have hne : t.nextId ≠ id := by
      rw [nextId]
      omega
    rw [get?_insert, if_neg hne, h]

theorem update (t : Table α) (i : Int) (row : α) : Grown t (t.update i row) where
  lastId := (lastId_update t i row).ge
  gone id _ h := by
    rw [← Option.not_isSome_iff_eq_none, isSome_get?_update, h]
    exact Bool.false_ne_true

theorem filter (t : Table α) (p : Int → α → Bool) : Grown t (t.filter p) where
  lastId := le_refl _
  gone id _ h := by rw [get?_filter, h, Option.filter_none]

/-- A row that is gone does not come back under its id. -/
theorem get?_eq_none (htu : Grown t u) (huv : Grown u v) {id : Int} (hrow : (t.get? id).isSome)
    (hgone : u.get? id = none) : v.get? id = none := by
  have hid := (t.bounded id (OrderedDict.mem_keys_iff.mpr (Option.isSome_iff_exists.mp hrow))).2
  exact huv.gone id (hid.trans (Int.ofNat_le.mpr htu.lastId)) hgone

end Grown

-- ---------------------------------------------------------------------------
-- Rows under a key
-- ---------------------------------------------------------------------------

variable {κ : Type} [DecidableEq κ] {key : α → κ} {t : Table α} {d : OrderedDict κ α}

/-- In the order of their ids the rows are those of a dictionary, each under its key. -/
def Keyed (key : α → κ) (t : Table α) (d : OrderedDict κ α) : Prop :=
  t.rows.entries.map (fun e => (key e.2, e.2)) = d.entries

theorem Keyed.get?_eq_some (h : Keyed key t d) {k : κ} {row : α} :
    d.get? k = some row ↔ ∃ id, t.get? id = some row ∧ key row = k := by
  have hentries : t.rows.entries.map (fun e => (key e.2, e.2)) = d.entries := h
  rw [OrderedDict.get?_eq_some, ← hentries, List.mem_map]
  constructor
  · rintro ⟨⟨id, found⟩, hrow, heq⟩
    cases heq
    exact ⟨id, OrderedDict.get?_eq_some.mpr hrow, rfl⟩
  · rintro ⟨id, hrow, rfl⟩
    exact ⟨(id, row), OrderedDict.get?_eq_some.mp hrow, rfl⟩

omit [DecidableEq κ] in
/-- No two rows have one key. -/
theorem Keyed.unique (h : Keyed key t d) {i j : Int} {a b : α} (ha : t.get? i = some a)
    (hb : t.get? j = some b) (hkey : key a = key b) : i = j := by
  have hn : (t.rows.entries.map fun e => key e.2).Nodup := by
    have hkeys := d.nodup
    rw [← h, List.map_map] at hkeys
    exact hkeys
  have heq := List.inj_on_of_nodup_map hn (OrderedDict.get?_eq_some.mp ha)
    (OrderedDict.get?_eq_some.mp hb) hkey
  exact congrArg Prod.fst heq

theorem Keyed.insert (h : Keyed key t d) {row : α} (hnew : d.get? (key row) = none) :
    Keyed key (t.insert row) (d.set (key row) row) := by
  rw [Keyed, entries_insert, OrderedDict.entries_set_of_not_mem row (OrderedDict.get?_eq_none.mp hnew),
    List.map_append, ← h]
  rfl

/-- An assignment to the id of a row is one to its key. -/
theorem map_assign {id : Int} {old row : α} {l : List (Int × α)} (hids : (l.map Prod.fst).Nodup)
    (hkeys : (l.map fun e => key e.2).Nodup) (hold : (id, old) ∈ l) (hkey : key old = key row) :
    (OrderedDict.assign id row l).map (fun e => (key e.2, e.2)) =
      OrderedDict.assign (key row) row (l.map fun e => (key e.2, e.2)) := by
  induction l with
  | nil => cases hold
  | cons e l ih =>
    obtain ⟨i, v⟩ := e
    rw [List.map_cons, List.nodup_cons] at hids hkeys
    rw [OrderedDict.assign, List.map_cons, OrderedDict.assign]
    rcases List.mem_cons.mp hold with heq | htail
    · cases heq
      rw [if_pos rfl, if_pos hkey, List.map_cons, hkey]
    · have hid : i ≠ id := fun hi => hids.1 (List.mem_map.mpr ⟨(id, old), htail, hi.symm⟩)
      have hne : key v ≠ key row := fun hv =>
        hkeys.1 (List.mem_map.mpr ⟨(id, old), htail, hkey.trans hv.symm⟩)
      rw [if_neg hid, if_neg hne, List.map_cons, ih hids.2 hkeys.2 htail]

theorem Keyed.update (h : Keyed key t d) {id : Int} {old row : α} (hold : t.get? id = some old)
    (hkey : key old = key row) : Keyed key (t.update id row) (d.set (key row) row) := by
  have hkeys : (t.rows.entries.map fun e => key e.2).Nodup := by
    have hnodup := d.nodup
    rw [← h, List.map_map] at hnodup
    exact hnodup
  have hupdate : (t.update id row).rows = t.rows.set id row := by
    rw [Table.update, dif_pos (Option.isSome_iff_exists.mpr ⟨old, hold⟩)]
  rw [Keyed, hupdate]
  refine (map_assign t.rows.nodup hkeys (OrderedDict.get?_eq_some.mp hold) hkey).trans ?_
  rw [h]
  rfl

omit [DecidableEq κ] in
/-- Rows with keys of their own are those of a dictionary. -/
theorem exists_keyed (h : ∀ i j a b, t.get? i = some a → t.get? j = some b → key a = key b → i = j) :
    ∃ d, Keyed key t d := by
  have hnodup : ((t.rows.entries.map fun e => (key e.2, e.2)).map Prod.fst).Nodup := by
    rw [List.map_map]
    refine List.Nodup.map_on ?_ (t.rows.nodup.of_map _)
    rintro ⟨i, a⟩ ha ⟨j, b⟩ hb hkey
    have ha := OrderedDict.get?_eq_some.mpr ha
    have hb := OrderedDict.get?_eq_some.mpr hb
    obtain rfl := h i j a b ha hb hkey
    cases ha.symm.trans hb
    rfl
  have hkeyed : Keyed key t ⟨t.rows.entries.map fun e => (key e.2, e.2), hnodup⟩ := rfl
  exact ⟨_, hkeyed⟩

omit [DecidableEq κ] in
/-- The ids and the dictionary make the table. -/
theorem Keyed.ext {u : Table α} (ht : Keyed key t d) (hu : Keyed key u d)
    (hids : u.rows.keys = t.rows.keys) (hlast : u.lastId = t.lastId) : u = t := by
  have hrows : u.rows.entries.map Prod.snd = t.rows.entries.map Prod.snd := by
    have hvalues := congrArg (List.map Prod.snd) (hu.trans ht.symm)
    rw [List.map_map, List.map_map] at hvalues
    exact hvalues
  refine Table.ext (OrderedDict.ext ?_) hlast
  rw [← List.zip_unzip u.rows.entries, ← List.zip_unzip t.rows.entries, List.unzip_fst,
    List.unzip_snd, List.unzip_fst, List.unzip_snd, hrows]
  exact congrArg (List.zip · _) hids

-- ---------------------------------------------------------------------------
-- Upserts
-- ---------------------------------------------------------------------------

/-- The table took a row under its key: in the place of a row with this key, or
as a new one where there was none. -/
inductive Upserted (key : α → κ) (t : Table α) (row : α) (id : Int) (u : Table α) : Prop
  | added (hfree : ∀ j old, t.get? j = some old → key old ≠ key row) (hid : t.nextId = id)
    (hu : u = t.insert row)
  | replaced {old : α} (hold : t.get? id = some old) (hkey : key old = key row)
    (hu : u = t.update id row)

variable {row : α} {id : Int} {u : Table α}

omit [DecidableEq κ] in
/-- The row has its id, and the other ids have what they had. -/
theorem Upserted.get? (h : Upserted key t row id u) (j : Int) :
    u.get? j = if j = id then some row else t.get? j := by
  cases h with
  | added hfree hid hu =>
    rw [hu, get?_insert, hid]
    simp only [eq_comm]
  | replaced hold hkey hu =>
    rw [hu, get?_update]
    by_cases hj : id = j
    · rw [if_pos hj, if_pos hj.symm, ← hj, hold, Option.map_some]
    · rw [if_neg hj, if_neg (Ne.symm hj)]

omit [DecidableEq κ] in
theorem Upserted.get?_self (h : Upserted key t row id u) : u.get? id = some row := by
  rw [h.get?, if_pos rfl]

omit [DecidableEq κ] in
/-- What was under the id had the key of the row. -/
theorem Upserted.key_eq (h : Upserted key t row id u) {old : α} (hold : t.get? id = some old) :
    key old = key row := by
  cases h with
  | added hfree hid hu =>
    rw [← hid, get?_nextId] at hold
    cases hold
  | replaced hold' hkey hu =>
    cases hold.symm.trans hold'
    exact hkey

omit [DecidableEq κ] in
/-- Rows with other keys are as they were. -/
theorem Upserted.get?_of_ne (h : Upserted key t row id u) {j : Int} {other : α}
    (hne : key other ≠ key row) : u.get? j = some other ↔ t.get? j = some other := by
  rw [h.get?]
  split
  · rename_i hj
    subst hj
    constructor
    · intro hrow
      cases hrow
      exact absurd rfl hne
    · intro hother
      exact absurd (h.key_eq hother) hne
  · rfl

omit [DecidableEq κ] in
/-- A new row takes a new id. -/
theorem Upserted.lengths (h : Upserted key t row id u) :
    (u.lastId = t.lastId ∧ u.rows.entries.length = t.rows.entries.length) ∨
      (u.lastId = t.lastId + 1 ∧ u.rows.entries.length = t.rows.entries.length + 1) := by
  cases h with
  | added hfree hid hu =>
    rw [hu, entries_insert, List.length_append]
    exact .inr ⟨rfl, rfl⟩
  | replaced hold hkey hu =>
    rw [hu, lastId_update, length_update]
    exact .inl ⟨rfl, rfl⟩

omit [DecidableEq κ] in
/-- An id keeps its key. -/
theorem Upserted.kept (h : Upserted key t row id u) {j : Int} {old : α} (hj : t.get? j = some old) :
    ∃ new, u.get? j = some new ∧ key new = key old := by
  rw [h.get?]
  split
  · rename_i hid
    subst hid
    exact ⟨row, rfl, (h.key_eq hj).symm⟩
  · exact ⟨old, hj, rfl⟩

theorem Upserted.keyed (h : Upserted key t row id u) (ht : Keyed key t d) :
    Keyed key u (d.set (key row) row) := by
  cases h with
  | added hfree hid hu =>
    rw [hu]
    refine ht.insert (Option.eq_none_iff_forall_ne_some.mpr fun old hold => ?_)
    obtain ⟨j, hj, hkey⟩ := ht.get?_eq_some.mp hold
    exact hfree j old hj hkey
  | replaced hold hkey hu =>
    rw [hu]
    exact ht.update hold hkey

end Table

-- ---------------------------------------------------------------------------
-- Ordered reads
-- ---------------------------------------------------------------------------

section OrderBy

variable {α β κ : Type} [LinearOrder κ]

/-- `ORDER BY`. -/
def orderBy (key : α → κ) (xs : List α) : List α := xs.insertionSort fun a b => key a ≤ key b

instance total_key (key : α → κ) : Std.Total fun a b : α => key a ≤ key b := ⟨fun _ _ => le_total _ _⟩

instance trans_key (key : α → κ) : IsTrans α fun a b : α => key a ≤ key b := ⟨fun _ _ _ => le_trans⟩

theorem mem_orderBy {key : α → κ} {xs : List α} {x : α} : x ∈ orderBy key xs ↔ x ∈ xs :=
  List.mem_insertionSort _

theorem perm_orderBy (key : α → κ) (xs : List α) : (orderBy key xs).Perm xs :=
  List.perm_insertionSort _ _

theorem orderBy_orderBy (key : α → κ) (xs : List α) : orderBy key (orderBy key xs) = orderBy key xs :=
  (List.pairwise_insertionSort _ xs).insertionSort_eq

/-- With a key of its own for everything the order says it all. -/
theorem orderBy_eq_of_perm {key : α → κ} (hkey : Function.Injective key) {xs ys : List α}
    (h : xs.Perm ys) : orderBy key xs = orderBy key ys := by
  have hperm : (orderBy key xs).Perm (orderBy key ys) :=
    (perm_orderBy key xs).trans (h.trans (perm_orderBy key ys).symm)
  refine hperm.eq_of_pairwise (fun a b _ _ hab hba => hkey (le_antisymm hab hba)) ?_ ?_
  · exact List.pairwise_insertionSort _ xs
  · exact List.pairwise_insertionSort _ ys

/-- The rows of a table as they are read, each with its id. -/
theorem mem_orderBy_rows {key : β → κ} {t : Table α} (view : Int → α → β) {b : β} :
    b ∈ orderBy key (t.rows.entries.map fun e => view e.1 e.2) ↔
      ∃ id row, t.get? id = some row ∧ b = view id row := by
  simp only [mem_orderBy, List.mem_map, Prod.exists, Table.get?, OrderedDict.get?_eq_some]
  exact exists₂_congr fun id row => and_congr_right fun _ => eq_comm

/-- A search for an id among the rows as they are read finds the row of the id. -/
theorem find?_orderBy_rows {key : β → κ} {t : Table α} (view : Int → α → β) (idOf : β → Option Int)
    (hview : ∀ id row, idOf (view id row) = some id) (id : Int) :
    ((orderBy key (t.rows.entries.map fun e => view e.1 e.2)).find? fun b => idOf b = some id) =
      (t.get? id).map (view id) := by
  cases hfound :
      (orderBy key (t.rows.entries.map fun e => view e.1 e.2)).find? fun b => idOf b = some id with
  | none =>
    rw [eq_comm, Option.map_eq_none_iff]
    by_contra hsome
    obtain ⟨row, hrow⟩ := Option.ne_none_iff_exists'.mp hsome
    have habsent := List.find?_eq_none.mp hfound _ ((mem_orderBy_rows view).mpr ⟨id, row, hrow, rfl⟩)
    exact habsent (decide_eq_true (hview id row))
  | some b =>
    obtain ⟨i, row, hrow, rfl⟩ := (mem_orderBy_rows view).mp (List.mem_of_find?_eq_some hfound)
    have hid := List.find?_some hfound
    rw [decide_eq_true_eq, hview, Option.some.injEq] at hid
    rw [← hid, hrow]
    rfl

theorem map_orderBy (f : α → β) (key : β → κ) (xs : List α) :
    (orderBy (fun x => key (f x)) xs).map f = orderBy key (xs.map f) :=
  List.map_insertionSort _ _ f xs fun _ _ _ _ => Iff.rfl

end OrderBy
