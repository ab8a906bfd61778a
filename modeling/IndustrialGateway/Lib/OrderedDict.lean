import Mathlib.Data.List.Induction
import Mathlib.Data.List.Nodup
import Mathlib.Data.List.Perm.Basic
import Mathlib.Data.List.Perm.Subperm

/-!
# Insertion-ordered dictionaries

A finite map that remembers the order in which its keys first arrived, as
Python's `dict` does. The entries are a plain list; the field `nodup` says that
no key occurs twice, so a malformed dictionary cannot be built and a lookup
has one answer. Assigning to a present key keeps its place, assigning to a new
key appends it.
-/

structure OrderedDict (κ α : Type) where
  entries : List (κ × α)
  nodup : (entries.map Prod.fst).Nodup

namespace OrderedDict

variable {κ α β : Type}

@[ext] theorem ext {d e : OrderedDict κ α} (h : d.entries = e.entries) : d = e := by
  cases d; cases e; cases h; rfl

def empty : OrderedDict κ α := ⟨[], List.nodup_nil⟩

instance : EmptyCollection (OrderedDict κ α) := ⟨empty⟩
instance : Inhabited (OrderedDict κ α) := ⟨empty⟩

instance [DecidableEq κ] [DecidableEq α] : DecidableEq (OrderedDict κ α) := fun d e =>
  decidable_of_iff (d.entries = e.entries) ⟨ext, fun h => h ▸ rfl⟩

def keys (d : OrderedDict κ α) : List κ := d.entries.map Prod.fst

def values (d : OrderedDict κ α) : List α := d.entries.map Prod.snd

def isEmpty (d : OrderedDict κ α) : Bool := d.entries.isEmpty

@[simp] theorem entries_empty : (∅ : OrderedDict κ α).entries = [] := rfl

theorem isEmpty_iff {d : OrderedDict κ α} : d.isEmpty = true ↔ d = ∅ := by
  simp [isEmpty, OrderedDict.ext_iff]

variable [DecidableEq κ]

def lookup (k : κ) : List (κ × α) → Option α
  | [] => none
  | (k', v) :: rest => if k' = k then some v else lookup k rest

def get? (d : OrderedDict κ α) (k : κ) : Option α := lookup k d.entries

def contains (d : OrderedDict κ α) (k : κ) : Bool := (d.get? k).isSome

/-- Assignment on the entry list: in place when the key is there. -/
def assign (k : κ) (v : α) : List (κ × α) → List (κ × α)
  | [] => [(k, v)]
  | (k', v') :: rest => if k' = k then (k', v) :: rest else (k', v') :: assign k v rest

theorem keys_assign (k : κ) (v : α) (l : List (κ × α)) :
    (assign k v l).map Prod.fst =
      if k ∈ l.map Prod.fst then l.map Prod.fst else l.map Prod.fst ++ [k] := by
  induction l with
  | nil => simp [assign]
  | cons p rest ih =>
    obtain ⟨k', v'⟩ := p
    by_cases h : k' = k
    · simp [assign, h]
    · simp only [assign, h, ↓reduceIte, List.map_cons, ih, List.mem_cons, Ne.symm h, false_or]
      split <;> simp

theorem nodup_assign (k : κ) (v : α) {l : List (κ × α)} (hn : (l.map Prod.fst).Nodup) :
    ((assign k v l).map Prod.fst).Nodup := by
  rw [keys_assign]
  split
  · exact hn
  · rename_i hk
    rw [List.nodup_append]
    refine ⟨hn, by simp, ?_⟩
    intro a ha b hb hab
    rw [List.mem_singleton.mp hb] at hab
    exact hk (hab ▸ ha)

/-- `d[k] = v`. -/
def set (d : OrderedDict κ α) (k : κ) (v : α) : OrderedDict κ α :=
  ⟨assign k v d.entries, nodup_assign k v d.nodup⟩

/-- `del d[k]`, and nothing when the key is not there. -/
def erase (d : OrderedDict κ α) (k : κ) : OrderedDict κ α :=
  ⟨d.entries.filter (fun p => p.1 ≠ k),
    d.nodup.sublist (List.filter_sublist.map Prod.fst)⟩

/-- The entries that satisfy a condition. -/
def filter (d : OrderedDict κ α) (p : κ → α → Bool) : OrderedDict κ α :=
  ⟨d.entries.filter fun e => p e.1 e.2, d.nodup.sublist (List.filter_sublist.map Prod.fst)⟩

/-- `d.popitem(last=False)`: the oldest entry and the rest. -/
def popFirst (d : OrderedDict κ α) : Option ((κ × α) × OrderedDict κ α) :=
  match d with
  | ⟨[], _⟩ => none
  | ⟨p :: rest, hn⟩ => some (p, ⟨rest, (List.nodup_cons.mp hn).2⟩)

/-- `d.update(pairs)`: one assignment a pair, in order. -/
def update (d : OrderedDict κ α) (pairs : List (κ × α)) : OrderedDict κ α :=
  pairs.foldl (fun d p => d.set p.1 p.2) d

/-- `dict(pairs)`. -/
def ofList (pairs : List (κ × α)) : OrderedDict κ α := update ∅ pairs

-- ---------------------------------------------------------------------------
-- Lookups
-- ---------------------------------------------------------------------------

@[simp] theorem get?_empty (k : κ) : (∅ : OrderedDict κ α).get? k = none := rfl

theorem lookup_eq_some {k : κ} {v : α} {l : List (κ × α)} (hn : (l.map Prod.fst).Nodup) :
    lookup k l = some v ↔ (k, v) ∈ l := by
  induction l with
  | nil => simp [lookup]
  | cons p rest ih =>
    obtain ⟨k', v'⟩ := p
    obtain ⟨hk, hr⟩ := List.nodup_cons.mp hn
    by_cases h : k' = k
    · subst h
      have hrest : (k', v) ∉ rest := fun hm => hk (List.mem_map.mpr ⟨_, hm, rfl⟩)
      simp [lookup, hrest, eq_comm]
    · simp [lookup, h, ih hr, Ne.symm h]

theorem get?_eq_some {d : OrderedDict κ α} {k : κ} {v : α} :
    d.get? k = some v ↔ (k, v) ∈ d.entries := lookup_eq_some d.nodup

theorem mem_of_lookup {k : κ} {v : α} {l : List (κ × α)} (h : lookup k l = some v) : (k, v) ∈ l := by
  induction l with
  | nil => cases h
  | cons p rest ih =>
    obtain ⟨j, w⟩ := p
    rw [lookup] at h
    split at h
    · rename_i hj
      rw [← hj, Option.some.inj h]
      exact List.mem_cons_self
    · exact List.mem_cons_of_mem _ (ih h)

theorem lookup_eq_none {k : κ} {l : List (κ × α)} : lookup k l = none ↔ k ∉ l.map Prod.fst := by
  induction l with
  | nil => simp [lookup]
  | cons p rest ih =>
    obtain ⟨k', v'⟩ := p
    by_cases h : k' = k
    · simp [lookup, h]
    · simp only [lookup, h, ↓reduceIte, ih, List.map_cons, List.mem_cons, Ne.symm h, false_or]

theorem get?_eq_none {d : OrderedDict κ α} {k : κ} : d.get? k = none ↔ k ∉ d.keys :=
  lookup_eq_none

theorem mem_keys_iff {d : OrderedDict κ α} {k : κ} : k ∈ d.keys ↔ ∃ v, d.get? k = some v := by
  rw [← not_iff_not, ← get?_eq_none, Option.eq_none_iff_forall_ne_some, not_exists]

theorem contains_iff {d : OrderedDict κ α} {k : κ} : d.contains k = true ↔ k ∈ d.keys := by
  simp [contains, mem_keys_iff, Option.isSome_iff_exists]

theorem mem_values_iff {d : OrderedDict κ α} {v : α} : v ∈ d.values ↔ ∃ k, d.get? k = some v := by
  simp [values, get?_eq_some]

-- ---------------------------------------------------------------------------
-- Assignment
-- ---------------------------------------------------------------------------

theorem lookup_assign (k j : κ) (v : α) (l : List (κ × α)) :
    lookup j (assign k v l) = if k = j then some v else lookup j l := by
  induction l with
  | nil => simp [assign, lookup]
  | cons p rest ih =>
    obtain ⟨k', v'⟩ := p
    by_cases h : k' = k
    · subst h
      by_cases hj : k' = j <;> simp [assign, lookup, hj]
    · simp only [assign, h, ↓reduceIte, lookup, ih]
      by_cases hj : k' = j
      · subst hj; simp [Ne.symm h]
      · simp [hj]

theorem get?_set (d : OrderedDict κ α) (k j : κ) (v : α) :
    (d.set k v).get? j = if k = j then some v else d.get? j := lookup_assign k j v d.entries

@[simp] theorem get?_set_self (d : OrderedDict κ α) (k : κ) (v : α) :
    (d.set k v).get? k = some v := by simp [get?_set]

theorem get?_set_of_ne {d : OrderedDict κ α} {k j : κ} {v : α} (h : k ≠ j) :
    (d.set k v).get? j = d.get? j := by simp [get?_set, h]

theorem keys_set (d : OrderedDict κ α) (k : κ) (v : α) :
    (d.set k v).keys = if k ∈ d.keys then d.keys else d.keys ++ [k] := keys_assign k v d.entries

theorem mem_keys_set {d : OrderedDict κ α} {k j : κ} {v : α} :
    j ∈ (d.set k v).keys ↔ j = k ∨ j ∈ d.keys := by
  rw [keys_set]
  split
  · exact ⟨.inr, fun h => h.elim (fun h => h ▸ ‹_›) id⟩
  · simp [or_comm]

theorem entries_set_of_not_mem {d : OrderedDict κ α} {k : κ} (v : α) (h : k ∉ d.keys) :
    (d.set k v).entries = d.entries ++ [(k, v)] := by
  obtain ⟨l, hn⟩ := d
  simp only [keys, set] at h ⊢
  clear hn
  induction l with
  | nil => rfl
  | cons p rest ih =>
    obtain ⟨k', v'⟩ := p
    simp only [List.map_cons, List.mem_cons, not_or] at h
    simp [assign, Ne.symm h.1, ih h.2]

/-- Two dictionaries with the same keys in the same order and the same lookups
are one. -/
theorem ext_get? {d e : OrderedDict κ α} (hk : d.keys = e.keys)
    (hg : ∀ k, d.get? k = e.get? k) : d = e := by
  obtain ⟨l, hl⟩ := d
  obtain ⟨m, hm⟩ := e
  refine OrderedDict.ext ?_
  simp only [keys, get?] at hk hg ⊢
  induction l generalizing m with
  | nil => simpa using hk.symm
  | cons p l ih =>
    obtain ⟨k, v⟩ := p
    cases m with
    | nil => simp at hk
    | cons q m =>
      obtain ⟨k', v'⟩ := q
      simp only [List.map_cons, List.cons.injEq] at hk
      obtain ⟨rfl, hk⟩ := hk
      have hv : v = v' := by simpa [lookup] using hg k
      have hkl := (List.nodup_cons.mp hl).1
      have hkm := (List.nodup_cons.mp hm).1
      subst hv
      congr 1
      refine ih (List.nodup_cons.mp hl).2 m (List.nodup_cons.mp hm).2 hk ?_
      intro j
      by_cases hj : k = j
      · subst hj
        rw [lookup_eq_none.mpr hkl, lookup_eq_none.mpr hkm]
      · simpa [lookup, hj] using hg j

-- ---------------------------------------------------------------------------
-- Many assignments
-- ---------------------------------------------------------------------------

@[simp] theorem update_nil (d : OrderedDict κ α) : d.update [] = d := rfl

@[simp] theorem update_cons (d : OrderedDict κ α) (p : κ × α) (ps : List (κ × α)) :
    d.update (p :: ps) = (d.set p.1 p.2).update ps := rfl

theorem update_append (d : OrderedDict κ α) (ps qs : List (κ × α)) :
    d.update (ps ++ qs) = (d.update ps).update qs := by
  simp [update, List.foldl_append]

theorem lookup_eq_head? (k : κ) (l : List (κ × α)) :
    lookup k l = ((l.filter fun p => p.1 = k).head?).map Prod.snd := by
  induction l with
  | nil => rfl
  | cons p l ih =>
    by_cases h : p.1 = k
    · simp [lookup, h]
    · simp [lookup, h, ih]

/-- The last assignment to a key is the one that is read. -/
theorem get?_update (d : OrderedDict κ α) (ps : List (κ × α)) (k : κ) :
    (d.update ps).get? k = (lookup k ps.reverse).or (d.get? k) := by
  induction ps using List.reverseRecOn generalizing d with
  | nil => simp [lookup]
  | append_singleton ps p ih =>
    obtain ⟨k', v⟩ := p
    rw [update_append, List.reverse_append]
    simp only [update_cons, update_nil, get?_set, List.reverse_cons, List.reverse_nil,
      List.nil_append, List.singleton_append, lookup]
    split
    · simp
    · exact ih d

theorem get?_ofList (ps : List (κ × α)) (k : κ) :
    (ofList ps).get? k = ((ps.filter fun p => p.1 = k).getLast?).map Prod.snd := by
  rw [ofList, get?_update, lookup_eq_head?, List.filter_reverse, List.head?_reverse, get?_empty,
    Option.or_none]

/-- What elements are kept under keys of their own, the last one of a key is found there. -/
theorem get?_ofList_map (key : β → κ) (bs : List β) (k : κ) :
    (ofList (bs.map fun b => (key b, b))).get? k = (bs.filter fun b => key b = k).getLast? := by
  rw [get?_ofList, List.filter_map, List.getLast?_map, Option.map_map]
  exact Option.map_id'

/-- An entry after the assignments is the last one to its key, or an old one. -/
theorem mem_entries_update {d : OrderedDict κ α} {ps : List (κ × α)} {p : κ × α} :
    p ∈ (d.update ps).entries ↔ (ps.filter fun q => q.1 = p.1).getLast? = some p ∨
      p.1 ∉ ps.map Prod.fst ∧ p ∈ d.entries := by
  obtain ⟨k, v⟩ := p
  have hget : (d.update ps).get? k =
      (((ps.filter fun q => q.1 = k).getLast?).map Prod.snd).or (d.get? k) := by
    rw [get?_update, lookup_eq_head?, List.filter_reverse, List.head?_reverse]
  rw [← get?_eq_some, hget, ← get?_eq_some]
  cases hlast : (ps.filter fun q => q.1 = k).getLast? with
  | none =>
    have hnone : k ∉ ps.map Prod.fst := by
      intro hk
      obtain ⟨q, hq, rfl⟩ := List.mem_map.mp hk
      rw [List.getLast?_eq_none_iff, List.filter_eq_nil_iff] at hlast
      exact hlast q hq (decide_eq_true rfl)
    simp [hnone]
  | some q =>
    have hq := List.mem_filter.mp (List.mem_of_getLast? hlast)
    have hkey : q.1 = k := of_decide_eq_true hq.2
    have hmem : k ∈ ps.map Prod.fst := hkey ▸ List.mem_map_of_mem hq.1
    simp only [Option.map_some, Option.some_or, Option.some.injEq, Prod.ext_iff, hkey, true_and, hmem,
      not_true_eq_false, false_and, or_false]

theorem mem_keys_update {d : OrderedDict κ α} {ps : List (κ × α)} {k : κ} :
    k ∈ (d.update ps).keys ↔ k ∈ d.keys ∨ k ∈ ps.map Prod.fst := by
  induction ps generalizing d with
  | nil => simp
  | cons p ps ih =>
    rw [update_cons, ih, mem_keys_set, List.map_cons, List.mem_cons]
    tauto

theorem keys_update_of_subset {d : OrderedDict κ α} {ps : List (κ × α)}
    (h : ∀ p ∈ ps, p.1 ∈ d.keys) : (d.update ps).keys = d.keys := by
  induction ps generalizing d with
  | nil => rfl
  | cons p ps ih =>
    have hset : (d.set p.1 p.2).keys = d.keys := by rw [keys_set, if_pos (h p (by simp))]
    rw [update_cons, ih fun q hq => hset ▸ h q (by simp [hq]), hset]

theorem keys_update_congr {d e : OrderedDict κ α} {ps qs : List (κ × α)} (hd : d.keys = e.keys)
    (h : ps.map Prod.fst = qs.map Prod.fst) : (d.update ps).keys = (e.update qs).keys := by
  induction ps generalizing d e qs with
  | nil =>
    obtain rfl : qs = [] := by simpa using h.symm
    exact hd
  | cons p ps ih =>
    cases qs with
    | nil => cases h
    | cons q qs =>
      obtain ⟨hkey, h⟩ := List.cons.inj h
      have hset : (d.set p.1 p.2).keys = (e.set q.1 q.2).keys := by rw [keys_set, keys_set, hd, hkey]
      rw [update_cons, update_cons, ih hset h]

/-- Of two rounds of assignments to the same keys the second one counts. -/
theorem update_update (d : OrderedDict κ α) {ps qs : List (κ × α)}
    (h : ps.map Prod.fst = qs.map Prod.fst) : (d.update ps).update qs = d.update qs := by
  have hsub : ∀ q ∈ qs, q.1 ∈ (d.update ps).keys := fun q hq =>
    mem_keys_update.mpr (.inr (h ▸ List.mem_map_of_mem hq))
  refine ext_get? ((keys_update_of_subset hsub).trans (keys_update_congr rfl h)) fun k => ?_
  rw [get?_update, get?_update, get?_update]
  cases hk : lookup k qs.reverse with
  | some v => rfl
  | none =>
    have hps : lookup k ps.reverse = none := by
      rw [lookup_eq_none, List.map_reverse, h, ← List.map_reverse]
      exact lookup_eq_none.mp hk
    rw [hps, Option.none_or]

theorem mem_keys_ofList {ps : List (κ × α)} {k : κ} : k ∈ (ofList ps).keys ↔ k ∈ ps.map Prod.fst := by
  rw [ofList, mem_keys_update]
  simp [keys]

/-- The keys stand in the order of their first assignments. -/
theorem keys_ofList_split {ps : List (κ × α)} {k : κ} {before after : List κ}
    (h : (ofList ps).keys = before ++ k :: after) :
    ∃ earlier v later, ps = earlier ++ (k, v) :: later ∧
      ∀ j, j ∈ before ↔ j ∈ earlier.map Prod.fst := by
  induction ps using List.reverseRecOn generalizing after with
  | nil => simp [keys, ofList] at h
  | append_singleton ps p ih =>
    have hset : (ofList (ps ++ [p])).keys = ((ofList ps).set p.1 p.2).keys := by
      rw [ofList, update_append]
      rfl
    rw [hset, keys_set] at h
    -- an old key, or the last one
    rcases List.eq_nil_or_concat after with rfl | ⟨rest, last, rfl⟩
    · split at h
      · obtain ⟨earlier, v, later, rfl, hmem⟩ := ih h
        exact ⟨earlier, v, later ++ [p], by simp, hmem⟩
      · obtain ⟨rfl, hlast⟩ := List.append_inj' h rfl
        obtain rfl : p.1 = k := List.singleton_inj.mp hlast
        exact ⟨ps, p.2, [], rfl, fun j => mem_keys_ofList⟩
    · split at h
      · obtain ⟨earlier, v, later, rfl, hmem⟩ := ih h
        exact ⟨earlier, v, later ++ [p], by simp, hmem⟩
      · rw [List.concat_eq_append, ← List.cons_append, ← List.append_assoc] at h
        obtain ⟨earlier, v, later, rfl, hmem⟩ := ih (List.append_inj' h rfl).1
        exact ⟨earlier, v, later ++ [p], by simp, hmem⟩

theorem entries_update_of_fresh (d : OrderedDict κ α) {ps : List (κ × α)}
    (hn : (ps.map Prod.fst).Nodup) (hf : ∀ p ∈ ps, p.1 ∉ d.keys) :
    (d.update ps).entries = d.entries ++ ps := by
  induction ps generalizing d with
  | nil => simp
  | cons p ps ih =>
    obtain ⟨hp, hn⟩ := List.nodup_cons.mp hn
    rw [update_cons, ih (d.set p.1 p.2) hn, entries_set_of_not_mem _ (hf p (by simp))]
    · simp
    · intro q hq hm
      rcases mem_keys_set.mp hm with h | h
      · exact hp (h ▸ List.mem_map.mpr ⟨q, hq, rfl⟩)
      · exact hf q (by simp [hq]) h

theorem entries_ofList {ps : List (κ × α)} (hn : (ps.map Prod.fst).Nodup) :
    (ofList ps).entries = ps := by
  rw [ofList, entries_update_of_fresh _ hn (by simp [keys])]
  rfl

/-- Every pair gets an entry of its own only when no key comes twice. -/
theorem length_ofList_iff {ps : List (κ × α)} :
    (ofList ps).entries.length = ps.length ↔ (ps.map Prod.fst).Nodup := by
  constructor
  · intro hlength
    have hsub : (ofList ps).keys.Subperm (ps.map Prod.fst) :=
      (ofList ps).nodup.subperm fun _ hk => mem_keys_ofList.mp hk
    have hperm := hsub.perm_of_length_le (by simp [keys, hlength])
    exact hperm.nodup_iff.mp (ofList ps).nodup
  · intro hn
    rw [entries_ofList hn]

/-- Elements under keys of their own are the values of a dictionary that finds them there. -/
theorem values_perm {key : β → κ} {bs : List β} (hn : (bs.map key).Nodup) {d : OrderedDict κ β}
    (h : ∀ k, d.get? k = (bs.filter fun b => key b = k).getLast?) : d.values.Perm bs := by
  have hkeys : ((bs.map fun b => (key b, b)).map Prod.fst).Nodup := by
    simpa [Function.comp_def] using hn
  have hentries : d.entries.Perm (bs.map fun b => (key b, b)) := by
    refine (List.perm_ext_iff_of_nodup (.of_map _ d.nodup) (.of_map _ hkeys)).mpr fun p => ?_
    rw [← get?_eq_some, h, ← get?_ofList_map, get?_eq_some, entries_ofList hkeys]
  have hvalues := hentries.map Prod.snd
  rwa [List.map_map, Function.comp_def, List.map_id'] at hvalues

theorem lookup_reverse {ps : List (κ × α)} (hn : (ps.map Prod.fst).Nodup) (k : κ) :
    lookup k ps.reverse = lookup k ps := by
  have hr : (ps.reverse.map Prod.fst).Nodup := by rwa [List.map_reverse, List.nodup_reverse]
  ext v
  rw [lookup_eq_some hr, lookup_eq_some hn, List.mem_reverse]

/-- With distinct keys there is one assignment to read. -/
theorem get?_update_of_nodup (d : OrderedDict κ α) {ps : List (κ × α)} (hn : (ps.map Prod.fst).Nodup)
    (k : κ) : (d.update ps).get? k = (lookup k ps).or (d.get? k) := by
  rw [get?_update, lookup_reverse hn]

theorem get?_ofList_of_nodup {ps : List (κ × α)} (hn : (ps.map Prod.fst).Nodup) (k : κ) :
    (ofList ps).get? k = lookup k ps := by
  rw [ofList, get?_update_of_nodup _ hn, get?_empty, Option.or_none]

/-- Where every key is assigned anew, the values are the new elements. -/
theorem values_update_perm {key : β → κ} {bs : List β} (hn : (bs.map key).Nodup)
    {d : OrderedDict κ β} (hsub : ∀ k ∈ d.keys, k ∈ bs.map key) :
    (d.update (bs.map fun b => (key b, b))).values.Perm bs := by
  have hnodup : ((bs.map fun b => (key b, b)).map Prod.fst).Nodup := by
    simpa [Function.comp_def] using hn
  refine values_perm hn fun k => ?_
  rw [get?_update_of_nodup d hnodup, ← get?_ofList_of_nodup hnodup, get?_ofList_map]
  cases hlast : (bs.filter fun b => key b = k).getLast? with
  | some b => rfl
  | none =>
    have hnew : k ∉ bs.map key := by
      intro hk
      obtain ⟨b, hb, rfl⟩ := List.mem_map.mp hk
      rw [List.getLast?_eq_none_iff, List.filter_eq_nil_iff] at hlast
      exact hlast b hb (decide_eq_true rfl)
    rw [Option.none_or, get?_eq_none]
    exact fun hk => hnew (hsub k hk)

-- ---------------------------------------------------------------------------
-- Removal
-- ---------------------------------------------------------------------------

theorem get?_filter (d : OrderedDict κ α) (p : κ → α → Bool) (k : κ) :
    (d.filter p).get? k = (d.get? k).filter (p k) := by
  ext v
  rw [get?_eq_some, Option.filter_eq_some_iff, get?_eq_some]
  exact List.mem_filter

omit [DecidableEq κ] in
theorem keys_filter_subset {d : OrderedDict κ α} {p : κ → α → Bool} {k : κ}
    (h : k ∈ (d.filter p).keys) : k ∈ d.keys :=
  (List.filter_sublist.map Prod.fst).subset h

theorem get?_erase (d : OrderedDict κ α) (k j : κ) :
    (d.erase k).get? j = if k = j then none else d.get? j := by
  by_cases h : k = j
  · subst h
    rw [if_pos rfl, get?_eq_none]
    simp [keys, erase]
  · rw [if_neg h]
    apply Option.ext
    intro v
    rw [get?_eq_some, get?_eq_some]
    simp [erase, Ne.symm h]

-- ---------------------------------------------------------------------------
-- Assignment at the end
-- ---------------------------------------------------------------------------

/-- `d.pop(k, None); d[k] = v`: the key goes to the end. -/
def setLast (d : OrderedDict κ α) (k : κ) (v : α) : OrderedDict κ α := (d.erase k).set k v

/-- The elements whose key no later element repeats. -/
def keepLast (key : β → κ) : List β → List β
  | [] => []
  | b :: bs => if key b ∈ bs.map key then keepLast key bs else b :: keepLast key bs

theorem entries_setLast (d : OrderedDict κ α) (k : κ) (v : α) :
    (d.setLast k v).entries = (d.erase k).entries ++ [(k, v)] := by
  refine entries_set_of_not_mem v ?_
  rw [← get?_eq_none, get?_erase, if_pos rfl]

/-- Assigned at the end one after another, entries line up behind those they do
not replace, each in the place of its last assignment. -/
theorem entries_foldl_setLast (d : OrderedDict κ α) (ps : List (κ × α)) :
    (ps.foldl (fun d p => d.setLast p.1 p.2) d).entries =
      d.entries.filter (fun p => p.1 ∉ ps.map Prod.fst) ++ keepLast Prod.fst ps := by
  induction ps generalizing d with
  | nil => simp [keepLast]
  | cons p ps ih =>
    rw [List.foldl_cons, ih, entries_setLast, erase, List.filter_append, List.filter_filter]
    have hfilter : (d.entries.filter fun q => decide (q.1 ∉ ps.map Prod.fst) && decide (q.1 ≠ p.1)) =
        d.entries.filter fun q => q.1 ∉ (p :: ps).map Prod.fst := by
      refine List.filter_congr fun q _ => ?_
      rw [← Bool.decide_and]
      simp only [List.map_cons, List.mem_cons, not_or, and_comm]
    rw [hfilter]
    by_cases hp : p.1 ∈ ps.map Prod.fst
    · have hnone : [p].filter (fun q => decide (q.1 ∉ ps.map Prod.fst)) = [] := by
        rw [List.filter_singleton]
        simp only [hp, not_true_eq_false, decide_false, cond_false]
      rw [keepLast, if_pos hp, hnone, List.append_nil]
    · have hone : [p].filter (fun q => decide (q.1 ∉ ps.map Prod.fst)) = [p] := by
        rw [List.filter_singleton]
        simp only [hp, not_false_eq_true, decide_true, cond_true]
      rw [keepLast, if_neg hp, hone, List.append_assoc]
      rfl

theorem keepLast_of_nodup {key : β → κ} {bs : List β} (hn : (bs.map key).Nodup) :
    keepLast key bs = bs := by
  induction bs with
  | nil => rfl
  | cons b bs ih =>
    obtain ⟨hb, hn⟩ := List.nodup_cons.mp hn
    rw [keepLast, if_neg hb, ih hn]

theorem keepLast_map {key : β → κ} {γ : Type} (f : γ → β) (cs : List γ) :
    keepLast key (cs.map f) = (keepLast (fun c => key (f c)) cs).map f := by
  induction cs with
  | nil => rfl
  | cons c cs ih =>
    simp only [List.map_cons, keepLast, List.map_map, ih, Function.comp_def]
    split <;> rfl

theorem keepLast_congr {κ' : Type} [DecidableEq κ'] {key : β → κ} {key' : β → κ'}
    (h : ∀ a b, key a = key b ↔ key' a = key' b) (bs : List β) :
    keepLast key bs = keepLast key' bs := by
  induction bs with
  | nil => rfl
  | cons b bs ih =>
    have hb : key b ∈ bs.map key ↔ key' b ∈ bs.map key' := by
      simp only [List.mem_map, h]
    simp only [keepLast, hb, ih]

theorem keepLast_sublist (key : β → κ) (bs : List β) : (keepLast key bs).Sublist bs := by
  induction bs with
  | nil => exact .slnil
  | cons b bs ih =>
    rw [keepLast]
    split
    · exact ih.cons b
    · exact ih.cons_cons b

theorem nodup_of_keepLast_eq {key : β → κ} {bs : List β} (h : keepLast key bs = bs) :
    (bs.map key).Nodup := by
  induction bs with
  | nil => exact List.nodup_nil
  | cons b bs ih =>
    rw [keepLast] at h
    split at h
    · have hle := (keepLast_sublist key bs).length_le
      rw [h, List.length_cons] at hle
      omega
    · rename_i hb
      exact List.nodup_cons.mpr ⟨hb, ih (List.cons.inj h).2⟩

theorem getLast?_keepLast (key : β → κ) (bs : List β) :
    (keepLast key bs).getLast? = bs.getLast? := by
  induction bs with
  | nil => rfl
  | cons b bs ih =>
    cases bs with
    | nil => simp [keepLast]
    | cons c cs =>
      rw [keepLast]
      have hne : keepLast key (c :: cs) ≠ [] := by
        intro h
        rw [h, List.getLast?_cons] at ih
        cases ih
      split
      · rw [ih, List.getLast?_cons_cons]
      · rw [List.getLast?_cons, List.getLast?_cons_cons, ← ih, List.getLast?_eq_some_getLast hne]
        rfl

/-- Dropped are the elements whose key comes again. -/
theorem not_mem_keepLast (key : β → κ) {bs : List β} {b : β} (hn : bs.Nodup) :
    b ∈ bs ∧ b ∉ keepLast key bs ↔ ∃ xs ys, bs = xs ++ b :: ys ∧ key b ∈ ys.map key := by
  induction bs with
  | nil => simp
  | cons c cs ih =>
    obtain ⟨hc, hn⟩ := List.nodup_cons.mp hn
    have hsub : c ∉ keepLast key cs := fun h => hc ((keepLast_sublist key cs).subset h)
    have hsplit : (∃ xs ys, c :: cs = xs ++ b :: ys ∧ key b ∈ ys.map key) ↔
        (c = b ∧ key b ∈ cs.map key) ∨ ∃ xs ys, cs = xs ++ b :: ys ∧ key b ∈ ys.map key := by
      constructor
      · rintro ⟨xs, ys, h, hk⟩
        cases xs with
        | nil => cases h; exact .inl ⟨rfl, hk⟩
        | cons x xs => cases h; exact .inr ⟨xs, ys, rfl, hk⟩
      · rintro (⟨rfl, hk⟩ | ⟨xs, ys, rfl, hk⟩)
        · exact ⟨[], cs, rfl, hk⟩
        · exact ⟨c :: xs, ys, rfl, hk⟩
    rw [hsplit, ← ih hn, keepLast]
    by_cases hcb : c = b
    · subst hcb
      split <;> simp_all
    · have hbc : b ≠ c := fun h => hcb h.symm
      split <;> simp [hcb, hbc]

/-- Leaving assignments out changes nothing exactly when the dictionary holds
them already. -/
theorem update_sublist_iff {d : OrderedDict κ α} {qs ps : List (κ × α)} (h : qs.Sublist ps)
    (hn : (ps.map Prod.fst).Nodup) :
    d.update qs = d.update ps ↔ ∀ p ∈ ps, p ∉ qs → d.get? p.1 = some p.2 := by
  induction h generalizing d with
  | slnil => simp
  | @cons qs ps p h ih =>
    obtain ⟨hp, hn⟩ := List.nodup_cons.mp hn
    have hpq : p ∉ qs := fun hm => hp (List.mem_map_of_mem (h.subset hm))
    have hkey : ∀ {e : OrderedDict κ α} {rs : List (κ × α)}, rs.Sublist ps →
        (e.update rs).get? p.1 = e.get? p.1 := by
      intro e rs hrs
      rw [get?_update, lookup_eq_none.mpr, Option.none_or]
      rw [List.map_reverse, List.mem_reverse]
      exact fun hm => hp ((hrs.map Prod.fst).subset hm)
    rw [update_cons]
    by_cases hd : d.get? p.1 = some p.2
    · have hset : d.set p.1 p.2 = d := by
        refine ext_get? ?_ fun k => ?_
        · rw [keys_set, if_pos (mem_keys_iff.mpr ⟨_, hd⟩)]
        · rw [get?_set]
          split
          · rename_i hk; rw [← hk, hd]
          · rfl
      rw [hset, ih hn]
      constructor
      · intro hall q hq hqs
        rcases List.mem_cons.mp hq with rfl | hq
        · exact hd
        · exact hall q hq hqs
      · exact fun hall q hq => hall q (List.mem_cons_of_mem _ hq)
    · constructor
      · intro heq
        have := congrArg (fun e => e.get? p.1) heq
        simp only [hkey h, hkey (List.Sublist.refl ps), get?_set_self] at this
        exact absurd this hd
      · exact fun hall => absurd (hall p (by simp) hpq) hd
  | @cons_cons qs ps p h ih =>
    obtain ⟨hp, hn⟩ := List.nodup_cons.mp hn
    rw [update_cons, update_cons, ih hn]
    have hne : ∀ q ∈ ps, q ≠ p ∧ (d.set p.1 p.2).get? q.1 = d.get? q.1 := by
      intro q hq
      have hk : p.1 ≠ q.1 := fun he => hp (he ▸ List.mem_map_of_mem hq)
      exact ⟨fun he => hk (he ▸ rfl), get?_set_of_ne hk⟩
    constructor
    · intro hall q hq hqs
      rcases List.mem_cons.mp hq with rfl | hq
      · simp at hqs
      · rw [← (hne q hq).2]
        exact hall q hq fun hm => hqs (List.mem_cons_of_mem _ hm)
    · intro hall q hq hqs
      rw [(hne q hq).2]
      refine hall q (List.mem_cons_of_mem _ hq) ?_
      simpa [(hne q hq).1] using hqs

-- ---------------------------------------------------------------------------
-- Grouping a list by a key
-- ---------------------------------------------------------------------------

/-- `for a in l: d.setdefault(key(a), []).append(a)`. -/
def groupInto (key : α → κ) (d : OrderedDict κ (List α)) (l : List α) : OrderedDict κ (List α) :=
  l.foldl (fun d a => d.set (key a) ((d.get? (key a)).getD [] ++ [a])) d

def groupBy (key : α → κ) (l : List α) : OrderedDict κ (List α) := groupInto key ∅ l

theorem groupInto_cons (key : α → κ) (d : OrderedDict κ (List α)) (a : α) (l : List α) :
    groupInto key d (a :: l) =
      groupInto key (d.set (key a) ((d.get? (key a)).getD [] ++ [a])) l := rfl

theorem get?_groupInto (key : α → κ) (d : OrderedDict κ (List α)) (l : List α) (k : κ) :
    (groupInto key d l).get? k =
      if k ∈ l.map key then some ((d.get? k).getD [] ++ l.filter (fun a => key a = k))
      else d.get? k := by
  induction l generalizing d with
  | nil => simp [groupInto]
  | cons a l ih =>
    rw [groupInto_cons, ih]
    by_cases h : key a = k
    · subst h
      by_cases hm : key a ∈ l.map key
      · simp [hm]
      · have hf : l.filter (fun b => decide (key b = key a)) = [] := by
          rw [List.filter_eq_nil_iff]
          intro b hb
          simpa using fun he : key b = key a => hm (he ▸ List.mem_map.mpr ⟨b, hb, rfl⟩)
        simp [hm, hf]
    · have hk : k ≠ key a := Ne.symm h
      simp only [get?_set_of_ne h, List.map_cons, List.mem_cons, hk, false_or,
        List.filter_cons, h, decide_false, Bool.false_eq_true, ↓reduceIte]

/-- A group is the sublist of the elements with its key, in list order. -/
theorem get?_groupBy (key : α → κ) (l : List α) (k : κ) :
    (groupBy key l).get? k =
      if k ∈ l.map key then some (l.filter (fun a => key a = k)) else none := by
  rw [groupBy, get?_groupInto]
  simp

theorem groupBy_congr {key key' : α → κ} {l : List α} (h : ∀ a ∈ l, key a = key' a) :
    groupBy key l = groupBy key' l :=
  List.foldl_ext _ _ _ fun d a ha => by rw [h a ha]

/-- The groups come in the order of their first elements. -/
theorem find?_keys_groupBy (key : α → κ) (l : List α) (p : κ → Bool) :
    (groupBy key l).keys.find? p = (l.map key).find? p := by
  suffices h : ∀ d : OrderedDict κ (List α),
      (groupInto key d l).keys.find? p = (d.keys ++ l.map key).find? p from h ∅
  induction l with
  | nil => simp [groupInto]
  | cons a l ih =>
    intro d
    rw [groupInto_cons, ih, keys_set]
    split
    · rename_i hmem
      rw [List.map_cons, List.find?_append, List.find?_append, List.find?_cons]
      split
      · rename_i hp
        have hfound : (d.keys.find? p).isSome := List.find?_isSome.mpr ⟨key a, hmem, hp⟩
        obtain ⟨k, hk⟩ := Option.isSome_iff_exists.mp hfound
        rw [hk]
        rfl
      · rfl
    · rw [List.append_assoc, List.singleton_append, List.map_cons]

theorem mem_entries_groupBy {key : α → κ} {l : List α} {k : κ} {g : List α} :
    (k, g) ∈ (groupBy key l).entries ↔ k ∈ l.map key ∧ g = l.filter (fun a => key a = k) := by
  rw [← get?_eq_some, get?_groupBy]
  split <;> simp_all [eq_comm]

theorem perm_flatten_assign {k : κ} {a : α} {l : List (κ × List α)} :
    ((assign k ((lookup k l).getD [] ++ [a]) l).map Prod.snd).flatten.Perm
      ((l.map Prod.snd).flatten ++ [a]) := by
  induction l with
  | nil => simp [assign, lookup]
  | cons p rest ih =>
    obtain ⟨k', g⟩ := p
    by_cases h : k' = k
    · simp only [assign, h, ↓reduceIte, lookup, Option.getD_some, List.map_cons, List.flatten_cons,
        List.append_assoc]
      exact List.Perm.append_left _ List.perm_append_comm
    · simp only [assign, h, ↓reduceIte, lookup, List.map_cons, List.flatten_cons, List.append_assoc]
      exact List.Perm.append_left _ ih

/-- The groups hold the elements of the list, each as often as the list does. -/
theorem perm_flatten_groupBy (key : α → κ) (l : List α) : (groupBy key l).values.flatten.Perm l := by
  suffices h : ∀ d : OrderedDict κ (List α),
      (groupInto key d l).values.flatten.Perm (d.values.flatten ++ l) from h ∅
  induction l with
  | nil => intro d; simp [groupInto]
  | cons a l ih =>
    intro d
    rw [groupInto_cons]
    refine (ih _).trans ?_
    have hset := (perm_flatten_assign (k := key a) (a := a) (l := d.entries)).append_right l
    rwa [List.append_assoc] at hset

-- ---------------------------------------------------------------------------
-- Optional fields
-- ---------------------------------------------------------------------------

/-- Assignment of a field that may be absent. -/
def setField (d : OrderedDict κ α) (field : κ × Option α) : OrderedDict κ α :=
  match field.2 with
  | some v => d.set field.1 v
  | none => d

@[simp] theorem setField_none (d : OrderedDict κ α) (k : κ) : d.setField (k, none) = d := rfl

@[simp] theorem setField_some (d : OrderedDict κ α) (k : κ) (v : α) :
    d.setField (k, some v) = d.set k v := rfl

def ofFields (fields : List (κ × Option α)) : OrderedDict κ α := fields.foldl setField ∅

theorem get?_setFields (d : OrderedDict κ α) {fields : List (κ × Option α)}
    (hn : (fields.map Prod.fst).Nodup) (k : κ) :
    (fields.foldl setField d).get? k = ((lookup k fields).join).or (d.get? k) := by
  induction fields generalizing d with
  | nil => simp [lookup]
  | cons field fields ih =>
    obtain ⟨j, v⟩ := field
    obtain ⟨hj, hn⟩ := List.nodup_cons.mp hn
    rw [List.foldl_cons, ih _ hn, lookup]
    split
    · rename_i hk
      obtain rfl : j = k := hk
      rw [lookup_eq_none.mpr hj]
      cases v with
      | none => rfl
      | some v => simp [setField]
    · rename_i hk
      cases v with
      | none => rfl
      | some v => rw [setField, get?_set_of_ne hk]

theorem get?_ofFields {fields : List (κ × Option α)} (hn : (fields.map Prod.fst).Nodup) (k : κ) :
    (ofFields fields).get? k = (lookup k fields).join := by
  rw [ofFields, get?_setFields _ hn, get?_empty, Option.or_none]

end OrderedDict
