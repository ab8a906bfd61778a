import IndustrialGateway.Lib.OrderedDict

/-!
# Queues that keep the latest entry of a key

A put replaces the queued entry with its key and goes to the end of the queue.
Less comes out of such a queue than was put into it, and in another order. A
reader that keeps the last entry of every class cannot tell, as long as entries
with one key are in one class.
-/

namespace LatestQueue

variable {κ α γ ε σ β : Type} [DecidableEq κ] [DecidableEq γ]

-- ---------------------------------------------------------------------------
-- The last of a class
-- ---------------------------------------------------------------------------

def lastOf (c : ε → γ) (x : γ) (l : List ε) : Option ε := (l.filter fun e => c e = x).getLast?

theorem lastOf_concat (c : ε → γ) (x : γ) (l : List ε) (e : ε) :
    lastOf c x (l ++ [e]) = if c e = x then some e else lastOf c x l := by
  unfold lastOf
  rw [List.filter_append]
  by_cases he : c e = x
  · simp [he]
  · simp [he]

theorem lastOf_map {ε' : Type} (c : ε → γ) (x : γ) (f : ε' → ε) (l : List ε') :
    lastOf c x (l.map f) = (lastOf (fun e => c (f e)) x l).map f := by
  unfold lastOf
  rw [List.filter_map, List.getLast?_map]
  rfl

theorem lastOf_some {c : ε → γ} {x : γ} {l : List ε} {e : ε} (h : lastOf c x l = some e) :
    e ∈ l ∧ c e = x := by
  have hmem := List.mem_of_getLast? h
  simpa using hmem

theorem lastOf_append (c : ε → γ) (x : γ) (l l' : List ε) :
    lastOf c x (l ++ l') = (lastOf c x l').or (lastOf c x l) := by
  rw [lastOf, List.filter_append, List.getLast?_append]
  rfl

theorem lastOf_eq_none {c : ε → γ} {x : γ} {l : List ε} (h : ∀ e ∈ l, c e ≠ x) : lastOf c x l = none := by
  rw [lastOf, List.getLast?_eq_none_iff, List.filter_eq_nil_iff]
  exact fun e he => by simpa using h e he

/-- Nothing of the class stands behind its last entry. -/
theorem split_of_lastOf {c : ε → γ} {x : γ} {l : List ε} {e : ε} (h : lastOf c x l = some e) :
    ∃ before behind, l = before ++ e :: behind ∧ ∀ d ∈ behind, c d ≠ x := by
  induction l using List.reverseRecOn with
  | nil => cases h
  | append_singleton l d ih =>
    rw [lastOf_concat] at h
    split at h
    · cases h
      exact ⟨l, [], rfl, fun _ hd => absurd hd List.not_mem_nil⟩
    · rename_i hd
      obtain ⟨before, behind, rfl, hbehind⟩ := ih h
      refine ⟨before, behind ++ [d], by simp, fun b hb => ?_⟩
      rcases List.mem_append.mp hb with hb | hb
      · exact hbehind b hb
      · exact List.mem_singleton.mp hb ▸ hd

/-- A reader whose view of one class is overwritten by each entry of the class
sees the last one only. -/
theorem observe_foldl {record : σ → ε → σ} {observe : σ → β} {c : ε → γ} {x : γ}
    {write : ε → β → β} {l : List ε}
    (hother : ∀ e ∈ l, c e ≠ x → ∀ s, observe (record s e) = observe s)
    (hwrite : ∀ e ∈ l, c e = x → ∀ s, observe (record s e) = write e (observe s))
    (habsorb : ∀ e e' b, c e = x → c e' = x → write e' (write e b) = write e' b) (s : σ) :
    observe (l.foldl record s) =
      ((lastOf c x l).map fun e => write e (observe s)).getD (observe s) := by
  induction l using List.reverseRecOn with
  | nil => rfl
  | append_singleton l e ih =>
    have ih := ih (fun d hd => hother d (List.mem_append_left _ hd))
      fun d hd => hwrite d (List.mem_append_left _ hd)
    have hmem : e ∈ l ++ [e] := List.mem_append_right _ (List.mem_singleton_self e)
    rw [List.foldl_append, List.foldl_cons, List.foldl_nil, lastOf_concat]
    by_cases he : c e = x
    · rw [if_pos he, hwrite e hmem he, ih]
      cases hlast : lastOf c x l with
      | none => rfl
      | some d => exact habsorb d e _ (lastOf_some hlast).2 he
    · rw [if_neg he, hother e hmem he, ih]

-- ---------------------------------------------------------------------------
-- Histories of a queue
-- ---------------------------------------------------------------------------

/-- All that was put into the queue, what has been taken out of it, and what it
holds. -/
inductive Coalesced : List (κ × α) → List (κ × α) → OrderedDict κ α → Prop
  | empty : Coalesced [] [] ∅
  | put {all taken : List (κ × α)} {q : OrderedDict κ α} (h : Coalesced all taken q) (p : κ × α) :
    Coalesced (all ++ [p]) taken (q.setLast p.1 p.2)
  | take {all taken : List (κ × α)} {q rest : OrderedDict κ α} {p : κ × α}
    (h : Coalesced all taken q) (hp : q.popFirst = some (p, rest)) : Coalesced all (taken ++ [p]) rest

variable {all taken : List (κ × α)} {q rest : OrderedDict κ α}

theorem Coalesced.puts (h : Coalesced all taken q) (ps : List (κ × α)) :
    Coalesced (all ++ ps) taken (ps.foldl (fun q p => q.setLast p.1 p.2) q) := by
  induction ps generalizing all q with
  | nil => rwa [List.append_nil]
  | cons p ps ih =>
    rw [List.append_cons]
    exact ih (h.put p)

omit [DecidableEq κ] in
theorem entries_of_popFirst {p : κ × α} (h : q.popFirst = some (p, rest)) :
    q.entries = p :: rest.entries := by
  obtain ⟨l, hn⟩ := q
  cases l with
  | nil => cases h
  | cons a l =>
    cases h
    rfl

/-- Nothing comes out that was not put in. -/
theorem Coalesced.subset (h : Coalesced all taken q) : taken ++ q.entries ⊆ all := by
  induction h with
  | empty => exact List.nil_subset _
  | @put all taken q h p ih =>
    intro e he
    rw [OrderedDict.entries_setLast, ← List.append_assoc, List.mem_append] at he
    rcases he with he | he
    · refine List.mem_append_left _ (ih ?_)
      rcases List.mem_append.mp he with he | he
      · exact List.mem_append_left _ he
      · exact List.mem_append_right _ (List.mem_of_mem_filter he)
    · exact List.mem_append_right _ he
  | @take all taken q rest p h hp ih =>
    rw [entries_of_popFirst hp] at ih
    rwa [List.append_assoc]

/-- Entries with one key are in one class. -/
def Classifies (c : κ × α → γ) (all : List (κ × α)) : Prop :=
  ∀ p ∈ all, ∀ p' ∈ all, p.1 = p'.1 → c p = c p'

/-- The last entry of a class is the same among all entries and among those that
came out or are still queued. -/
theorem Coalesced.lastOf_eq {c : κ × α → γ} (h : Coalesced all taken q) (hc : Classifies c all)
    (x : γ) : lastOf c x (taken ++ q.entries) = lastOf c x all := by
  induction h with
  | empty => rfl
  | @put all taken q h p ih =>
    have hsub := h.subset
    have ih := ih fun a ha b hb => hc a (List.mem_append_left _ ha) b (List.mem_append_left _ hb)
    rw [OrderedDict.entries_setLast, ← List.append_assoc, lastOf_concat, lastOf_concat]
    by_cases hx : c p = x
    · rw [if_pos hx, if_pos hx]
    · rw [if_neg hx, if_neg hx, ← ih]
      have herase : (q.erase p.1).entries = q.entries.filter fun e => decide (e.1 ≠ p.1) := rfl
      unfold lastOf
      rw [List.filter_append, List.filter_append, herase, List.filter_filter]
      congr 2
      refine List.filter_congr fun e he => ?_
      by_cases hkey : e.1 = p.1
      · have hclass : c e = c p := hc e (List.mem_append_left _ (hsub (List.mem_append_right _ he))) p
          (List.mem_append_right _ (List.mem_singleton_self p)) hkey
        simp [hclass, hx]
      · simp [hkey]
  | @take all taken q rest p h hp ih =>
    have ih := ih hc
    rwa [entries_of_popFirst hp, List.append_cons] at ih

/-- A reader of everything that came out of a drained queue has seen the last
entry of every class. -/
theorem Coalesced.lastOf_drained {c : κ × α → γ} (h : Coalesced all taken q)
    (hc : Classifies c all) (hq : q.entries = []) (x : γ) : lastOf c x taken = lastOf c x all := by
  have hlast := h.lastOf_eq hc x
  rwa [hq, List.append_nil] at hlast

-- ---------------------------------------------------------------------------
-- Waiting
-- ---------------------------------------------------------------------------

/-- The entry is in the queue with at most so many before it. -/
def Within (q : OrderedDict κ α) (p : κ × α) (n : Nat) : Prop :=
  ∃ front behind, q.entries = front ++ p :: behind ∧ front.length ≤ n

variable {p : κ × α} {n : Nat}

/-- An entry with another key does not push in front. -/
theorem Within.put (h : Within q p n) {a : κ × α} (ha : a.1 ≠ p.1) :
    Within (q.setLast a.1 a.2) p n := by
  obtain ⟨front, behind, hentries, hlen⟩ := h
  have hkept : (p :: behind).filter (fun e => decide (e.1 ≠ a.1)) =
      p :: behind.filter fun e => decide (e.1 ≠ a.1) :=
    List.filter_cons_of_pos (decide_eq_true (Ne.symm ha))
  have herase : (q.erase a.1).entries = q.entries.filter fun e => decide (e.1 ≠ a.1) := rfl
  refine ⟨front.filter fun e => e.1 ≠ a.1, (behind.filter fun e => e.1 ≠ a.1) ++ [(a.1, a.2)], ?_,
    Nat.le_trans (List.length_filter_le ..) hlen⟩
  rw [OrderedDict.entries_setLast, herase, hentries, List.filter_append, hkept, List.append_assoc,
    List.cons_append]

theorem Within.puts (h : Within q p n) {as : List (κ × α)} (has : ∀ a ∈ as, a.1 ≠ p.1) :
    Within (as.foldl (fun q a => q.setLast a.1 a.2) q) p n := by
  induction as generalizing q with
  | nil => exact h
  | cons a as ih =>
    exact ih (h.put (has a List.mem_cons_self)) fun b hb => has b (List.mem_cons_of_mem a hb)

omit [DecidableEq κ] in
/-- A take takes the entry or one before it. -/
theorem Within.take (h : Within q p n) : ∃ a rest, q.popFirst = some (a, rest) ∧
    (a = p ∨ ∃ m, n = m + 1 ∧ Within rest p m) := by
  obtain ⟨front, behind, hentries, hlen⟩ := h
  obtain ⟨entries, hnodup⟩ := q
  subst hentries
  cases front with
  | nil => exact ⟨_, _, rfl, .inl rfl⟩
  | cons a front =>
    rw [List.length_cons] at hlen
    exact ⟨_, _, rfl, .inr ⟨n - 1, by omega, front, behind, rfl, by omega⟩⟩

/-- The last entry that was put under a key is in the queue, behind at most the other
keys. -/
theorem within_of_lastOf {as : List (κ × α)} (h : lastOf Prod.fst p.1 as = some p) {others : List κ}
    (hq : ∀ a ∈ q.entries, a.1 = p.1 ∨ a.1 ∈ others) (has : ∀ a ∈ as, a.1 = p.1 ∨ a.1 ∈ others) :
    Within (as.foldl (fun q a => q.setLast a.1 a.2) q) p others.length := by
  obtain ⟨before, behind, rfl, hbehind⟩ := split_of_lastOf h
  rw [List.foldl_append, List.foldl_cons]
  refine Within.puts ?_ hbehind
  set front := (before.foldl (fun q a => q.setLast a.1 a.2) q).erase p.1 with hfront
  have hkeys : front.entries.map Prod.fst ⊆ others := by
    intro k hk
    obtain ⟨a, ha, rfl⟩ := List.mem_map.mp hk
    obtain ⟨hmem, hne⟩ := List.mem_filter.mp ha
    have hold : a.1 = p.1 ∨ a.1 ∈ others := by
      rw [OrderedDict.entries_foldl_setLast] at hmem
      rcases List.mem_append.mp hmem with hmem | hmem
      · exact hq a (List.mem_filter.mp hmem).1
      · exact has a (List.mem_append_left _ ((OrderedDict.keepLast_sublist ..).subset hmem))
    exact hold.resolve_left (of_decide_eq_true hne)
  refine ⟨front.entries, [], OrderedDict.entries_setLast .., ?_⟩
  rw [← List.length_map Prod.fst]
  exact (front.nodup.subperm hkeys).length_le

/-- When the same keys are put again before every take, the first of them is taken. -/
theorem take_puts_again {as : List (κ × α)} (hne : as ≠ []) (hnodup : (as.map Prod.fst).Nodup)
    (hq : ∀ a ∈ q.entries, a.1 ∈ as.map Prod.fst) :
    ∃ a rest, (as.foldl (fun q a => q.setLast a.1 a.2) q).popFirst = some (a, rest) ∧
      as = a :: rest.entries := by
  have hentries : (as.foldl (fun q a => q.setLast a.1 a.2) q).entries = as := by
    rw [OrderedDict.entries_foldl_setLast, OrderedDict.keepLast_of_nodup hnodup,
      List.filter_eq_nil_iff.mpr fun a ha => by simpa using hq a ha, List.nil_append]
  generalize as.foldl (fun q a => q.setLast a.1 a.2) q = filled at hentries
  obtain ⟨entries, hn⟩ := filled
  subst hentries
  cases entries with
  | nil => exact absurd rfl hne
  | cons a rest => exact ⟨_, _, rfl, rfl⟩

end LatestQueue
