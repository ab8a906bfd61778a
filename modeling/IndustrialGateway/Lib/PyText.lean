import Mathlib.Data.List.DropRight
import Mathlib.Data.Nat.Notation
import Mathlib.Tactic.Common

/-!
# Python's text functions

`str.strip`, `str.lower`, `str.upper`, `str.split` on one character and the two
conversions between integers and text, on Lean strings. White space and decimal
digits are the Unicode ones that Python knows. Case is only changed where the
result is an ASCII letter.
-/

namespace PyText

/-- `str.isspace` for one character. -/
def isSpace (c : Char) : Bool :=
  (9 ≤ c.toNat && c.toNat ≤ 13) || (28 ≤ c.toNat && c.toNat ≤ 32) || c.toNat = 0x85
    || c.toNat = 0xA0 || c.toNat = 0x1680 || (0x2000 ≤ c.toNat && c.toNat ≤ 0x200A)
    || c.toNat = 0x2028 || c.toNat = 0x2029 || c.toNat = 0x202F || c.toNat = 0x205F
    || c.toNat = 0x3000

def stripChars (cs : List Char) : List Char := (cs.dropWhile isSpace).rdropWhile isSpace

def strip (s : String) : String := String.ofList (stripChars s.toList)

/-- No character to strip at either end. -/
def Stripped (s : String) : Prop := strip s = s

instance (s : String) : Decidable (Stripped s) := inferInstanceAs (Decidable (_ = _))

/-- `str.lower`; the Kelvin sign is the one character outside ASCII whose lower
case is a plain ASCII letter. -/
def lower (s : String) : String :=
  String.ofList (s.toList.map fun c => if c.toNat = 0x212A then 'k' else c.toLower)

/-- `str.split(c)` on the characters. -/
def splitChars (c : Char) : List Char → List (List Char)
  | [] => [[]]
  | x :: xs =>
    if x = c then [] :: splitChars c xs
    else match splitChars c xs with
      | [] => [[x]]
      | part :: parts => (x :: part) :: parts

def split (c : Char) (s : String) : List String := (splitChars c s.toList).map String.ofList

/-- `str.replace` of one character by another. -/
def replaceChar (c d : Char) (s : String) : String :=
  String.ofList (s.toList.map fun x => if x = c then d else x)

/-- `str.strip(c)` for one character. -/
def stripChar (c : Char) (s : String) : String :=
  String.ofList ((s.toList.dropWhile (· == c)).rdropWhile (· == c))

/-- `str.lstrip(c)` and `str.rstrip(c)` for one character. -/
def lstripChar (c : Char) (s : String) : String := String.ofList (s.toList.dropWhile (· == c))

def rstripChar (c : Char) (s : String) : String := String.ofList (s.toList.rdropWhile (· == c))

/-- What follows the first occurrence of a separator. -/
def after (sep : List Char) : List Char → Option (List Char)
  | [] => none
  | c :: cs => if sep.isPrefixOf (c :: cs) then some ((c :: cs).drop sep.length) else after sep cs

/-- `part in text`. -/
def contains (part s : String) : Bool := part = "" || (after part.toList s.toList).isSome

/-- Upper case of one character, for the letters whose upper case is ASCII. -/
def upperChar (c : Char) : List Char :=
  if c.toNat < 128 then [c.toUpper]
  else match c with
    | 'ß' => ['S', 'S'] | 'ı' => ['I'] | 'ſ' => ['S'] | 'ŉ' => ['ʼ', 'N'] | 'ǰ' => ['J', '\u030c']
    | 'ẖ' => ['H', '\u0331'] | 'ẗ' => ['T', '\u0308'] | 'ẘ' => ['W', '\u030a']
    | 'ẙ' => ['Y', '\u030a'] | 'ẚ' => ['A', 'ʾ'] | 'ﬀ' => ['F', 'F'] | 'ﬁ' => ['F', 'I']
    | 'ﬂ' => ['F', 'L'] | 'ﬃ' => ['F', 'F', 'I'] | 'ﬄ' => ['F', 'F', 'L'] | 'ﬅ' => ['S', 'T']
    | 'ﬆ' => ['S', 'T'] | c => [c]

/-- `str.upper`, exact where the result is compared with ASCII letters. -/
def upper (s : String) : String := String.ofList (s.toList.flatMap upperChar)

/-- `str.startswith` and `str.endswith`. -/
def startsWith (p s : String) : Bool := p.toList.isPrefixOf s.toList

def endsWith (p s : String) : Bool := p.toList.isSuffixOf s.toList

-- ---------------------------------------------------------------------------
-- Integers
-- ---------------------------------------------------------------------------

/-- First code points of the runs of ten decimal digits. -/
def digitZeros : List Nat :=
  [0x30, 0x660, 0x6F0, 0x7C0, 0x966, 0x9E6, 0xA66, 0xAE6, 0xB66, 0xBE6, 0xC66, 0xCE6, 0xD66,
    0xDE6, 0xE50, 0xED0, 0xF20, 0x1040, 0x1090, 0x17E0, 0x1810, 0x1946, 0x19D0, 0x1A80, 0x1A90,
    0x1B50, 0x1BB0, 0x1C40, 0x1C50, 0xA620, 0xA8D0, 0xA900, 0xA9D0, 0xA9F0, 0xAA50, 0xABF0,
    0xFF10, 0x104A0, 0x10D30, 0x11066, 0x110F0, 0x11136, 0x111D0, 0x112F0, 0x11450, 0x114D0,
    0x11650, 0x116C0, 0x11730, 0x118E0, 0x11950, 0x11C50, 0x11D50, 0x11DA0, 0x16A60, 0x16AC0,
    0x16B50, 0x1D7CE, 0x1D7D8, 0x1D7E2, 0x1D7EC, 0x1D7F6, 0x1E140, 0x1E2F0, 0x1E950, 0x1FBF0]

/-- `unicodedata.decimal`. -/
def decimal (c : Char) : Option Nat :=
  (digitZeros.find? fun z => z ≤ c.toNat && c.toNat < z + 10).map (c.toNat - ·)

/-- Digits, with single underscores between them. -/
def digitsFrom (acc : Nat) : List Char → Option Nat
  | [] => some acc
  | '_' :: c :: rest => (decimal c).bind fun d => digitsFrom (10 * acc + d) rest
  | c :: rest => (decimal c).bind fun d => digitsFrom (10 * acc + d) rest

def natOfChars : List Char → Option Nat
  | [] => none
  | c :: rest => (decimal c).bind fun d => digitsFrom d rest

def intOfChars : List Char → Option Int
  | '-' :: rest => (natOfChars rest).map fun n : Nat => -(n : Int)
  | '+' :: rest => (natOfChars rest).map fun n : Nat => (n : Int)
  | cs => (natOfChars cs).map fun n : Nat => (n : Int)

/-- `int(text)`; `none` is its `ValueError`. -/
def intOfText (s : String) : Option Int := intOfChars (stripChars s.toList)

/-- `str(n)`. -/
def textOfInt (n : Int) : String := toString n

-- ---------------------------------------------------------------------------
-- Stripping
-- ---------------------------------------------------------------------------

theorem stripChars_of_forall {cs : List Char} (h : ∀ c ∈ cs, isSpace c = false) :
    stripChars cs = cs := by
  have hd : cs.dropWhile isSpace = cs := by
    cases cs with
    | nil => rfl
    | cons c cs => simp [h c (by simp)]
  rw [stripChars, hd, List.rdropWhile_eq_self_iff]
  intro hl
  simp [h _ (List.getLast_mem hl)]

theorem stripped_of_forall {s : String} (h : ∀ c ∈ s.toList, isSpace c = false) :
    Stripped s := by
  simp [Stripped, strip, stripChars_of_forall h]

theorem stripped_empty : Stripped "" := by decide

theorem stripChars_stripChars (cs : List Char) : stripChars (stripChars cs) = stripChars cs := by
  have hdrop : (stripChars cs).dropWhile isSpace = stripChars cs := by
    obtain ⟨rest, hrest⟩ := List.rdropWhile_prefix isSpace (l := cs.dropWhile isSpace)
    cases hstrip : stripChars cs with
    | nil => rfl
    | cons c t =>
      have hhead := List.head?_dropWhile_not isSpace cs
      rw [stripChars] at hstrip
      rw [← hrest, hstrip] at hhead
      have hc : isSpace c = false := by simpa using hhead
      simp [hc]
  rw [stripChars, hdrop]
  conv_lhs => rw [stripChars]
  exact List.rdropWhile_idempotent ..

theorem stripped_strip (s : String) : Stripped (strip s) := by
  rw [Stripped, strip, strip, String.toList_ofList, stripChars_stripChars]

/-- Nothing is lost between the first and the last character that is kept. -/
theorem mem_stripped {p : Char → Bool} {x : Char} {cs : List Char} (hx : x ∈ cs) (hp : p x = false) :
    x ∈ (cs.dropWhile p).rdropWhile p := by
  have hnot (h : p x = true) : False := Bool.false_ne_true (hp.symm.trans h)
  have hfront : x ∈ cs.dropWhile p := by
    rw [← List.takeWhile_append_dropWhile (p := p) (l := cs), List.mem_append] at hx
    exact hx.resolve_left fun h => hnot (List.mem_takeWhile_imp h)
  rw [← List.rdropWhile_append_rtakeWhile (p := p) (l := cs.dropWhile p), List.mem_append] at hfront
  exact hfront.resolve_right fun h => hnot (List.mem_rtakeWhile_imp h)

theorem strip_ne_empty {s : String} {x : Char} (hx : x ∈ s.toList) (hspace : isSpace x = false) :
    strip s ≠ "" := by
  intro h
  have hmem : x ∈ (strip s).toList := by
    rw [strip, String.toList_ofList]
    exact mem_stripped hx hspace
  rw [h] at hmem
  cases hmem

-- ---------------------------------------------------------------------------
-- Stripping one character
-- ---------------------------------------------------------------------------

/-- A text with something to keep is what is stripped before, what is kept, and what
is stripped behind. -/
theorem stripped_parts {c : Char} {cs : List Char} (h : ∃ x ∈ cs, x ≠ c) :
    ∃ before kept behind, cs = before ++ (kept ++ behind) ∧
      (cs.dropWhile (· == c)).rdropWhile (· == c) = kept ∧
      cs.rdropWhile (· == c) = before ++ kept ∧ (∀ x ∈ before, (x == c) = true) ∧
      kept.dropWhile (· == c) = kept ∧ kept ≠ [] := by
  obtain ⟨x, hx, hne⟩ := h
  let rest := cs.dropWhile (· == c)
  have hrest : rest ≠ [] := by
    intro hnil
    have hall := List.dropWhile_eq_nil_iff.mp hnil x hx
    exact hne (beq_iff_eq.mp hall)
  have hhead : (rest.head hrest == c) = false := by
    have hnot := List.head?_dropWhile_not (· == c) cs
    rw [show cs.dropWhile (· == c) = rest from rfl, List.head?_eq_some_head hrest] at hnot
    simpa using hnot
  have hkept : rest.rdropWhile (· == c) ≠ [] := by
    rw [Ne, List.rdropWhile_eq_nil_iff]
    intro hall
    rw [hall _ (List.head_mem hrest)] at hhead
    cases hhead
  refine ⟨cs.takeWhile (· == c), rest.rdropWhile (· == c), rest.rtakeWhile (· == c), ?_, rfl, ?_,
    fun x => List.mem_takeWhile_imp, ?_, hkept⟩
  · rw [List.rdropWhile_append_rtakeWhile, List.takeWhile_append_dropWhile]
  · conv_lhs => rw [← List.takeWhile_append_dropWhile (p := (· == c)) (l := cs)]
    have hback : (rest.reverse.dropWhile (· == c)).isEmpty = false := by
      rw [List.isEmpty_eq_false_iff, ← List.reverse_ne_nil_iff]
      exact hkept
    rw [List.rdropWhile, List.reverse_append, List.dropWhile_append]
    change (if (rest.reverse.dropWhile (· == c)).isEmpty = true then _ else
      rest.reverse.dropWhile (· == c) ++ _).reverse = _
    rw [hback, if_neg nofun, List.reverse_append, List.reverse_reverse]
    rfl
  · obtain ⟨tail, htail⟩ := List.rdropWhile_prefix (· == c) (l := rest)
    cases hcons : rest.rdropWhile (· == c) with
    | nil => exact absurd hcons hkept
    | cons y ys =>
      have hy : rest.head hrest = y := by
        have heq : rest = y :: (ys ++ tail) := by rw [← htail, hcons]; rfl
        simp [heq]
      rw [List.dropWhile_cons_of_neg]
      rw [← hy, hhead]
      exact nofun

/-- What is appended to a text stripped at its end is not stripped from it. -/
theorem stripChar_append {c : Char} {s t : String} (hs : ∃ x ∈ s.toList, x ≠ c)
    (ht : ∀ x, t.toList.getLast? = some x → x ≠ c) (hne : t ≠ "") :
    stripChar c (rstripChar c s ++ t) = stripChar c s ++ t := by
  obtain ⟨before, kept, behind, -, hkept, hfront, hbefore, hstart, hnonempty⟩ := stripped_parts hs
  have hlast : (kept ++ t.toList).rdropWhile (· == c) = kept ++ t.toList := by
    rw [List.rdropWhile_eq_self_iff]
    intro hl hend
    have hnil : t.toList ≠ [] := by simpa using hne
    rw [List.getLast_append_of_ne_nil hl hnil] at hend
    exact ht _ (List.getLast?_eq_some_getLast hnil) (beq_iff_eq.mp hend)
  have hdrop : (kept ++ t.toList).dropWhile (· == c) = kept ++ t.toList := by
    rw [List.dropWhile_append, hstart, if_neg (by simpa using hnonempty)]
  rw [stripChar, stripChar, rstripChar, String.toList_append, String.toList_ofList, hfront, hkept,
    List.append_assoc, List.dropWhile_append_of_pos hbefore, hdrop, hlast, String.ofList_append,
    String.ofList_toList]

/-- A text without such characters at its ends keeps what is appended to it. -/
theorem stripChar_stripChar_append {c : Char} {s t : String} (hs : ∃ x ∈ s.toList, x ≠ c)
    (ht : ∀ x, t.toList.getLast? = some x → x ≠ c) (hne : t ≠ "") :
    stripChar c (stripChar c s ++ t) = stripChar c s ++ t := by
  obtain ⟨before, kept, behind, hparts, hkept, -, hbefore, hstart, hnonempty⟩ := stripped_parts hs
  have hself : (stripChar c s).toList = kept := by rw [stripChar, String.toList_ofList, hkept]
  have hback : kept.rdropWhile (· == c) = kept := by
    rw [← hkept]
    exact List.rdropWhile_idempotent ..
  have hagain : stripChar c (stripChar c s) = stripChar c s := by
    rw [stripChar, hself, hstart, hback, stripChar, hkept]
  have hright : rstripChar c (stripChar c s) = stripChar c s := by
    rw [rstripChar, hself, hback, stripChar, hkept]
  have hmem : ∃ x ∈ (stripChar c s).toList, x ≠ c := by
    cases hcons : kept with
    | nil => exact absurd hcons hnonempty
    | cons x xs =>
      refine ⟨x, by rw [hself, hcons]; exact List.mem_cons_self, ?_⟩
      rintro rfl
      rw [hcons, List.dropWhile_cons_of_pos (by simp)] at hstart
      have hlength := congrArg List.length hstart
      have hshort := (List.dropWhile_sublist (· == x) (l := xs)).length_le
      rw [List.length_cons] at hlength
      omega
  have happend := stripChar_append hmem ht hne
  rwa [hright, hagain] at happend

theorem mem_stripChar {c x : Char} {s : String} (hx : x ∈ s.toList) (hne : x ≠ c) :
    x ∈ (stripChar c s).toList := by
  rw [stripChar, String.toList_ofList]
  exact mem_stripped hx (beq_eq_false_iff_ne.mpr hne)

theorem stripChar_eq_empty {c : Char} {s : String} (h : ∀ x ∈ s.toList, x = c) :
    stripChar c s = "" := by
  have hnil : s.toList.dropWhile (· == c) = [] :=
    List.dropWhile_eq_nil_iff.mpr fun x hx => beq_iff_eq.mpr (h x hx)
  rw [stripChar, hnil]
  rfl

/-- With another character at the end, only the front is stripped. -/
theorem stripChar_eq_lstripChar {c : Char} {s : String}
    (h : ∀ x, s.toList.getLast? = some x → x ≠ c) : stripChar c s = lstripChar c s := by
  have hback : (s.toList.dropWhile (· == c)).rdropWhile (· == c) = s.toList.dropWhile (· == c) := by
    rw [List.rdropWhile_eq_self_iff]
    intro hl hend
    have hlast := List.getLast?_eq_some_getLast hl
    rw [(List.dropWhile_suffix (· == c)).getLast hl] at hend
    exact h _ (List.getLast?_eq_some_getLast _) (beq_iff_eq.mp hend)
  rw [stripChar, hback, lstripChar]

theorem lstripChar_append (c : Char) (s t : String) :
    lstripChar c (s ++ t) =
      if lstripChar c s = "" then lstripChar c t else lstripChar c s ++ t := by
  by_cases hs : s.toList.dropWhile (· == c) = []
  · have hempty : lstripChar c s = "" := by rw [lstripChar, hs]
    rw [if_pos hempty, lstripChar, String.toList_append, List.dropWhile_append, hs, lstripChar]
    rfl
  · have hne : lstripChar c s ≠ "" := fun h => hs (by simpa [lstripChar] using h)
    rw [if_neg hne, lstripChar, String.toList_append, List.dropWhile_append, if_neg (by simpa using hs),
      String.ofList_append, String.ofList_toList, lstripChar]

theorem lstripChar_of_not_mem {c : Char} {s : String} (h : c ∉ s.toList) : lstripChar c s = s := by
  have hkept : s.toList.dropWhile (· == c) = s.toList := by
    cases hs : s.toList with
    | nil => rfl
    | cons x xs =>
      rw [List.dropWhile_cons_of_neg]
      rintro hx
      rw [beq_iff_eq] at hx
      exact h (hs ▸ hx ▸ List.mem_cons_self)
  rw [lstripChar, hkept, String.ofList_toList]

-- ---------------------------------------------------------------------------
-- Splitting at one character
-- ---------------------------------------------------------------------------

theorem splitChars_ne_nil (c : Char) (cs : List Char) : splitChars c cs ≠ [] := by
  cases cs with
  | nil => exact nofun
  | cons x xs =>
    rw [splitChars]
    split
    · exact nofun
    · split <;> exact nofun

theorem intercalate_splitChars (c : Char) (cs : List Char) :
    [c].intercalate (splitChars c cs) = cs := by
  induction cs with
  | nil => rfl
  | cons x xs ih =>
    rw [splitChars]
    split
    · rename_i hx
      rw [List.intercalate_cons_of_ne_nil (splitChars_ne_nil c xs), ih, hx]
      rfl
    · split
      · rename_i hnil
        exact absurd hnil (splitChars_ne_nil c xs)
      · rename_i part parts hparts
        rw [hparts] at ih
        rw [List.intercalate_cons_cons_left, ih]

theorem splitChars_append (c : Char) (cs ds : List Char) :
    splitChars c (cs ++ c :: ds) = splitChars c cs ++ splitChars c ds := by
  induction cs with
  | nil => simp [splitChars]
  | cons x xs ih =>
    rw [List.cons_append, splitChars, splitChars, ih]
    split
    · rfl
    · cases hxs : splitChars c xs with
      | nil => exact absurd hxs (splitChars_ne_nil c xs)
      | cons part parts => rfl

/-- Where the last separator of a text stands. -/
theorem append_sep_inj {c : Char} {xs ys ds es : List Char} (hd : c ∉ ds) (he : c ∉ es) :
    xs ++ c :: ds = ys ++ c :: es ↔ xs = ys ∧ ds = es := by
  constructor
  · intro h
    rcases List.append_eq_append_iff.mp h with ⟨zs, rfl, hz⟩ | ⟨zs, rfl, hz⟩
    · cases zs with
      | nil => simpa using hz
      | cons z zs => exact absurd (by simp [(List.cons.inj hz).2]) hd
    · cases zs with
      | nil => simpa using hz.symm
      | cons z zs => exact absurd (by simp [(List.cons.inj hz).2]) he
  · rintro ⟨rfl, rfl⟩
    rfl

theorem intercalate_split (sep : String) (c : Char) (hsep : sep.toList = [c]) (s : String) :
    String.intercalate sep (split c s) = s := by
  refine String.toList_inj.mp ?_
  rw [String.toList_intercalate, split, List.map_map, hsep]
  have hid : (splitChars c s.toList).map (String.toList ∘ String.ofList) = splitChars c s.toList := by
    simp [Function.comp_def]
  rw [hid, intercalate_splitChars]

-- ---------------------------------------------------------------------------
-- Integers and text
-- ---------------------------------------------------------------------------

theorem toNat_of_isDigit {c : Char} (h : c.isDigit = true) : 48 ≤ c.toNat ∧ c.toNat ≤ 57 := by
  simp only [Char.isDigit, Bool.and_eq_true, decide_eq_true_eq] at h
  exact ⟨h.1, h.2⟩

theorem isSpace_of_isDigit {c : Char} (h : c.isDigit = true) : isSpace c = false := by
  have hb := toNat_of_isDigit h
  simp only [isSpace, Bool.or_eq_false_iff, Bool.and_eq_false_iff, decide_eq_false_iff_not]
  omega

theorem decimal_of_isDigit {c : Char} (h : c.isDigit = true) :
    decimal c = some (c.toNat - 48) := by
  have hb := toNat_of_isDigit h
  have hf : decide (0x30 ≤ c.toNat) && decide (c.toNat < 0x30 + 10) := by simp; omega
  simp [decimal, digitZeros, List.find?_cons_of_pos, hf]

theorem ne_underscore_of_isDigit {c : Char} (h : c.isDigit = true) : c ≠ '_' := by
  rintro rfl
  exact absurd h (by decide)

theorem digitsFrom_of_isDigit {cs : List Char} (h : ∀ c ∈ cs, c.isDigit = true) (acc : Nat) :
    digitsFrom acc cs = some (Nat.ofDigitChars 10 cs acc) := by
  induction cs generalizing acc with
  | nil => simp [digitsFrom]
  | cons c cs ih =>
    have hc := h c (by simp)
    have hu := ne_underscore_of_isDigit hc
    have hstep : digitsFrom acc (c :: cs) =
        (decimal c).bind fun d => digitsFrom (10 * acc + d) cs := by
      cases cs with
      | nil => simp [digitsFrom]
      | cons d cs => simp [digitsFrom, hu]
    rw [hstep, decimal_of_isDigit hc, Option.bind_some, ih fun d hd => h d (by simp [hd]),
      Nat.ofDigitChars_cons]
    rfl

theorem natOfChars_toDigits (n : Nat) : natOfChars (Nat.toDigits 10 n) = some n := by
  have hd : ∀ c ∈ Nat.toDigits 10 n, c.isDigit = true := fun c hc =>
    Nat.isDigit_of_mem_toDigits (by decide) (by decide) hc
  have hn := Nat.ofDigitChars_ten_toDigits (n := n)
  cases hcs : Nat.toDigits 10 n with
  | nil => exact absurd hcs Nat.toDigits_ne_nil
  | cons c cs =>
    rw [hcs] at hd hn
    rw [natOfChars, decimal_of_isDigit (hd c (by simp)), Option.bind_some,
      digitsFrom_of_isDigit fun d h => hd d (by simp [h])]
    rw [Nat.ofDigitChars_cons] at hn
    simpa using hn

theorem toList_textOfInt (n : Int) :
    (textOfInt n).toList =
      if 0 ≤ n then Nat.toDigits 10 n.toNat else '-' :: Nat.toDigits 10 (-n).toNat := by
  rw [textOfInt, Int.toString_eq_repr, Int.repr_eq_if]
  split
  · exact Nat.toList_repr
  · simp [String.toList_append, Nat.toList_repr]

theorem textOfInt_chars {n : Int} {c : Char} (h : c ∈ (textOfInt n).toList) :
    c = '-' ∨ c.isDigit = true := by
  rw [toList_textOfInt] at h
  split at h
  · exact .inr (Nat.isDigit_of_mem_toDigits (by decide) (by decide) h)
  · rcases List.mem_cons.mp h with h | h
    · exact .inl h
    · exact .inr (Nat.isDigit_of_mem_toDigits (by decide) (by decide) h)

theorem dash_not_mem_textOfInt {n : Int} (hn : 0 ≤ n) : '-' ∉ (textOfInt n).toList := by
  rw [toList_textOfInt, if_pos hn]
  intro h
  exact absurd (Nat.isDigit_of_mem_toDigits (by decide) (by decide) h) (by decide)

theorem textOfInt_no_space {n : Int} : ∀ c ∈ (textOfInt n).toList, isSpace c = false := by
  intro c hc
  rcases textOfInt_chars hc with rfl | hd
  · decide
  · exact isSpace_of_isDigit hd

theorem textOfInt_stripped (n : Int) : Stripped (textOfInt n) := stripped_of_forall textOfInt_no_space

theorem textOfInt_ne_empty (n : Int) : textOfInt n ≠ "" := by
  intro h
  have hl := toList_textOfInt n
  rw [h] at hl
  split at hl
  · exact Nat.toDigits_ne_nil hl.symm
  · simp at hl

/-- `int(str(n)) == n`. -/
theorem intOfText_textOfInt (n : Int) : intOfText (textOfInt n) = some n := by
  rw [intOfText, stripChars_of_forall textOfInt_no_space, toList_textOfInt]
  split
  · rename_i hn
    have hd : ∀ c ∈ Nat.toDigits 10 n.toNat, c.isDigit = true := fun c hc =>
      Nat.isDigit_of_mem_toDigits (by decide) (by decide) hc
    have hcs : intOfChars (Nat.toDigits 10 n.toNat) =
        (natOfChars (Nat.toDigits 10 n.toNat)).map fun n : Nat => (n : Int) := by
      unfold intOfChars
      split
      · rename_i h; exact absurd (hd '-' (by simp [h])) (by decide)
      · rename_i h; exact absurd (hd '+' (by simp [h])) (by decide)
      · rfl
    rw [hcs, natOfChars_toDigits, Option.map_some, Int.toNat_of_nonneg hn]
  · rename_i hn
    simp only [intOfChars, natOfChars_toDigits, Option.map_some, Option.some.injEq]
    omega

theorem textOfInt_inj {m n : Int} : textOfInt m = textOfInt n ↔ m = n := by
  refine ⟨fun h => ?_, fun h => h ▸ rfl⟩
  have hint := congrArg intOfText h
  rw [intOfText_textOfInt, intOfText_textOfInt] at hint
  exact Option.some.inj hint

end PyText
