import Mathlib.Data.List.Basic

/-!
# Readers

A reader takes what it knows from the front of a text and leaves the rest. Lists in
brackets, with commas and blanks between the items, are read item by item.
-/

abbrev Reader (α : Type) : Type := List Char → Option (α × List Char)

namespace Reader

variable {α : Type}

def isBlank (c : Char) : Bool := c ∈ [' ', '\t', '\n', '\r']

def skipBlanks (cs : List Char) : List Char := cs.dropWhile isBlank

/-- Items with commas between them, up to the closing bracket. -/
def items (read : Reader α) (close : Char) : Nat → Reader (List α)
  | 0, _ => none
  | fuel + 1, cs =>
    match read cs with
    | none => none
    | some (x, rest) =>
      match skipBlanks rest with
      | [] => none
      | c :: rest =>
        if c = close then some ([x], rest)
        else if c = ',' then
          (items read close fuel (skipBlanks rest)).map fun (xs, rest) => (x :: xs, rest)
        else none

/-- What follows an opening bracket. -/
def bracketed (read : Reader α) (close : Char) (fuel : Nat) (cs : List Char) :
    Option (List α × List Char) :=
  match skipBlanks cs with
  | [] => none
  | c :: rest => if c = close then some ([], rest) else items read close fuel (c :: rest)

/-- A text that skips nothing and does not close the bracket. -/
def Starts (close : Char) (cs : List Char) : Prop :=
  ∃ c rest, cs = c :: rest ∧ isBlank c = false ∧ c ≠ close

theorem skipBlanks_append {blanks cs : List Char} (h : ∀ c ∈ blanks, isBlank c = true) :
    skipBlanks (blanks ++ cs) = skipBlanks cs := List.dropWhile_append_of_pos h

theorem skipBlanks_cons {c : Char} {cs : List Char} (h : isBlank c = false) :
    skipBlanks (c :: cs) = c :: cs := by
  rw [skipBlanks, List.dropWhile_cons_of_neg]
  rw [h]
  exact fun h => Bool.false_ne_true h

theorem Starts.append {close : Char} {cs : List Char} (h : Starts close cs) (ds : List Char) :
    Starts close (cs ++ ds) := by
  obtain ⟨c, rest, rfl, hblank, hclose⟩ := h
  exact ⟨c, rest ++ ds, rfl, hblank, hclose⟩

theorem Starts.ne_nil {close : Char} {cs : List Char} (h : Starts close cs) : cs ≠ [] := by
  obtain ⟨c, rest, rfl, -⟩ := h
  exact List.cons_ne_nil c rest

theorem Starts.skipBlanks {close : Char} {cs : List Char} (h : Starts close cs) :
    skipBlanks cs = cs := by
  obtain ⟨c, rest, rfl, hblank, -⟩ := h
  exact skipBlanks_cons hblank

/-- Items with commas between them and blanks behind the commas. -/
def joined (write : α → List Char) (pad : List Char) : List α → List Char
  | [] => []
  | [x] => write x
  | x :: y :: xs => write x ++ ',' :: (pad ++ joined write pad (y :: xs))

variable {write : α → List Char} {pad : List Char}

theorem length_le_joined (write : α → List Char) (pad : List Char) {x : α} {xs : List α} (h : x ∈ xs) :
    (write x).length ≤ (joined write pad xs).length := by
  induction xs with
  | nil => cases h
  | cons y ys ih =>
    cases ys with
    | nil => exact List.mem_singleton.mp h ▸ Nat.le_refl _
    | cons z zs =>
      rw [joined, List.length_append]
      rcases List.mem_cons.mp h with rfl | h
      · exact Nat.le_add_right _ _
      · have hrest := ih h
        rw [List.length_cons, List.length_append]
        omega

theorem count_le_joined (pad : List Char) {xs : List α} (h : ∀ x ∈ xs, write x ≠ []) :
    xs.length ≤ (joined write pad xs).length := by
  induction xs with
  | nil => exact Nat.zero_le _
  | cons y ys ih =>
    obtain ⟨hy, hys⟩ := List.forall_mem_cons.mp h
    have hpos := List.length_pos_iff.mpr hy
    cases ys with
    | nil => rw [joined]; exact hpos
    | cons z zs =>
      have hrest := ih hys
      rw [joined, List.length_append, List.length_cons, List.length_cons (a := ','), List.length_append]
      omega

theorem Starts.joined {close : Char} (pad : List Char) {x : α} (xs : List α) (h : Starts close (write x)) :
    Starts close (joined write pad (x :: xs)) := by
  cases xs with
  | nil => exact h
  | cons y ys => exact h.append _

/-- Items that the reader reads one by one are read with the commas between them. -/
theorem items_joined {read : Reader α} {close : Char} (hpad : ∀ c ∈ pad, isBlank c = true)
    (hclose : isBlank close = false) (hcomma : close ≠ ',') {fuel : Nat} (x : α) (xs : List α)
    (hstarts : ∀ y ∈ x :: xs, Starts close (write y))
    (hread : ∀ y ∈ x :: xs, ∀ c rest, c = close ∨ c = ',' →
      read (write y ++ c :: rest) = some (y, c :: rest))
    (hfuel : xs.length < fuel) (rest : List Char) :
    items read close fuel (joined write pad (x :: xs) ++ close :: rest) = some (x :: xs, rest) := by
  induction fuel generalizing x xs with
  | zero => exact absurd hfuel (Nat.not_lt_zero _)
  | succ fuel ih =>
    obtain ⟨hx, hxs⟩ := List.forall_mem_cons.mp hread
    obtain ⟨-, hstarts⟩ := List.forall_mem_cons.mp hstarts
    cases xs with
    | nil =>
      rw [items, joined, hx _ _ (.inl rfl)]
      dsimp only
      rw [skipBlanks_cons hclose]
      dsimp only
      rw [if_pos rfl]
    | cons y ys =>
      have hnext := ((hstarts y List.mem_cons_self).joined pad ys).append (close :: rest)
      rw [items, joined, List.append_assoc, List.cons_append, hx _ _ (.inr rfl)]
      dsimp only
      rw [skipBlanks_cons (by decide)]
      dsimp only
      rw [if_neg (Ne.symm hcomma), if_pos rfl, List.append_assoc, skipBlanks_append hpad,
        hnext.skipBlanks, ih y ys hstarts hxs (Nat.lt_of_succ_lt_succ hfuel)]
      rfl

/-- The same behind the opening bracket, where there may be no item. -/
theorem bracketed_joined {read : Reader α} {close : Char} (hpad : ∀ c ∈ pad, isBlank c = true)
    (hclose : isBlank close = false) (hcomma : close ≠ ',') {fuel : Nat} {xs : List α}
    (hstarts : ∀ y ∈ xs, Starts close (write y))
    (hread : ∀ y ∈ xs, ∀ c rest, c = close ∨ c = ',' →
      read (write y ++ c :: rest) = some (y, c :: rest))
    (hfuel : xs.length ≤ fuel) (rest : List Char) :
    bracketed read close fuel (joined write pad xs ++ close :: rest) = some (xs, rest) := by
  cases xs with
  | nil =>
    rw [bracketed, joined, List.nil_append, skipBlanks_cons hclose]
    dsimp only
    rw [if_pos rfl]
  | cons x xs =>
    have hitems := items_joined hpad hclose hcomma x xs hstarts hread hfuel rest
    have hfront := ((hstarts x List.mem_cons_self).joined pad xs).append (close :: rest)
    rw [bracketed, hfront.skipBlanks]
    obtain ⟨c, more, hcons, -, hne⟩ := hfront
    rw [hcons] at hitems ⊢
    dsimp only
    rw [if_neg hne, hitems]

/-- What the reader gives of every item. -/
theorem items_all {read : Reader α} {close : Char} {p : α → Prop}
    (hread : ∀ cs x rest, read cs = some (x, rest) → p x) {fuel : Nat} {cs : List Char} {xs : List α}
    {rest : List Char} (h : items read close fuel cs = some (xs, rest)) : ∀ x ∈ xs, p x := by
  induction fuel generalizing cs xs rest with
  | zero => cases h
  | succ fuel ih =>
    rw [items] at h
    split at h
    · cases h
    · rename_i x more hx
      have hp := hread _ _ _ hx
      split at h
      · cases h
      · split at h
        · cases h
          exact fun y hy => List.mem_singleton.mp hy ▸ hp
        · split at h
          · obtain ⟨⟨ys, last⟩, hys, heq⟩ := Option.map_eq_some_iff.mp h
            cases heq
            exact List.forall_mem_cons.mpr ⟨hp, ih hys⟩
          · cases h

theorem bracketed_all {read : Reader α} {close : Char} {p : α → Prop}
    (hread : ∀ cs x rest, read cs = some (x, rest) → p x) {fuel : Nat} {cs : List Char} {xs : List α}
    {rest : List Char} (h : bracketed read close fuel cs = some (xs, rest)) : ∀ x ∈ xs, p x := by
  rw [bracketed] at h
  split at h
  · cases h
  · split at h
    · cases h
      exact fun _ hx => absurd hx List.not_mem_nil
    · exact items_all hread h

end Reader
