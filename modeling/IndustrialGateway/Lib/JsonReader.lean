import IndustrialGateway.Lib.PyJson
import IndustrialGateway.Lib.Readers

/-!
# Reading JSON texts

`json.loads` on the characters of a text. An escape that names half of a surrogate pair
is refused.
-/

namespace JsonReader

open Reader

-- ---------------------------------------------------------------------------
-- Strings
-- ---------------------------------------------------------------------------

def hexValue (c : Char) : Option Nat :=
  if c.isDigit then some (c.toNat - 48)
  else if c ∈ "abcdef".toList then some (c.toNat - 87)
  else if c ∈ "ABCDEF".toList then some (c.toNat - 55)
  else none

def codeUnit : Reader Nat
  | a :: b :: c :: d :: rest => do
    let a ← hexValue a
    let b ← hexValue b
    let c ← hexValue c
    let d ← hexValue d
    return (((a * 16 + b) * 16 + c) * 16 + d, rest)
  | _ => none

/-- What follows `\u`. -/
def unicodeEscape (cs : List Char) : Option (Char × List Char) :=
  match codeUnit cs with
  | none => none
  | some (unit, rest) =>
    if 0xD800 ≤ unit ∧ unit < 0xDC00 then
      -- the first half of a pair takes the second half behind it
      match rest with
      | '\\' :: 'u' :: rest =>
        match codeUnit rest with
        | none => none
        | some (low, rest) =>
          if 0xDC00 ≤ low ∧ low < 0xE000 then
            some (Char.ofNat (0x10000 + (unit - 0xD800) * 0x400 + (low - 0xDC00)), rest)
          else none
      | _ => none
    else if 0xDC00 ≤ unit ∧ unit < 0xE000 then none
    else some (Char.ofNat unit, rest)

def escapes : List (Char × Char) :=
  [('"', '"'), ('\\', '\\'), ('/', '/'), ('b', '\x08'), ('f', '\x0c'), ('n', '\n'), ('r', '\r'),
    ('t', '\t')]

def stringChar : Reader Char
  | [] => none
  | c :: rest =>
    if c = '\\' then
      match rest with
      | [] => none
      | e :: rest =>
        if e = 'u' then unicodeEscape rest
        else (OrderedDict.lookup e escapes).map fun c => (c, rest)
    else if c.toNat < 0x20 then none
    else some (c, rest)

/-- Up to the closing quote. -/
def stringChars : Nat → Reader (List Char)
  | 0, _ => none
  | fuel + 1, cs =>
    if cs.head? = some '"' then some ([], cs.tail)
    else
      match stringChar cs with
      | none => none
      | some (x, rest) => (stringChars fuel rest).map fun (xs, rest) => (x :: xs, rest)

def string (cs : List Char) : Option (String × List Char) :=
  (stringChars (cs.length + 1) cs).map fun (s, rest) => (String.ofList s, rest)

-- ---------------------------------------------------------------------------
-- Numbers
-- ---------------------------------------------------------------------------

def minus (cs : List Char) : List Char × List Char :=
  if cs.head? = some '-' then (['-'], cs.tail) else ([], cs)

def sign (cs : List Char) : List Char × List Char :=
  if cs.head? = some '+' then (['+'], cs.tail) else minus cs

def intPart : Reader (List Char)
  | [] => none
  | c :: rest =>
    if c = '0' then some ([c], rest)
    else if c.isDigit then some (c :: rest.takeWhile Char.isDigit, rest.dropWhile Char.isDigit)
    else none

def fraction : List Char → List Char × List Char
  | [] => ([], [])
  | c :: rest =>
    if c = '.' ∧ rest.takeWhile Char.isDigit ≠ [] then
      (c :: rest.takeWhile Char.isDigit, rest.dropWhile Char.isDigit)
    else ([], c :: rest)

def exponent : List Char → List Char × List Char
  | [] => ([], [])
  | e :: rest =>
    let (sign, digits) := sign rest
    if (e = 'e' ∨ e = 'E') ∧ digits.takeWhile Char.isDigit ≠ [] then
      (e :: (sign ++ digits.takeWhile Char.isDigit), digits.dropWhile Char.isDigit)
    else ([], e :: rest)

variable {F : Type}

section

variable [PyRuntime F]

/-- A number without a fraction and an exponent is an integer. -/
def number (cs : List Char) : Option (PyValue F × List Char) :=
  let (minus, rest) := minus cs
  match intPart rest with
  | none => none
  | some (int, rest) =>
    let (fraction, rest) := fraction rest
    let (exponent, rest) := exponent rest
    let text := String.ofList (minus ++ int ++ fraction ++ exponent)
    if fraction ++ exponent = [] then (PyText.intOfText text).map fun n => (.int n, rest)
    else (PyRuntime.parse text).map fun x => (.float x, rest)

-- ---------------------------------------------------------------------------
-- Values
-- ---------------------------------------------------------------------------

def constants : List (String × Option (PyValue F)) :=
  [("null", some .none), ("true", some (.bool true)), ("false", some (.bool false)),
    ("NaN", (PyRuntime.parse "nan").map .float), ("Infinity", (PyRuntime.parse "inf").map .float),
    ("-Infinity", (PyRuntime.parse "-inf").map .float)]

/-- The word that a text starts with, if any. -/
def wordOf (cs : List Char) : Option (String × Option (PyValue F)) :=
  constants.find? fun word => word.1.toList.isPrefixOf cs

omit [PyRuntime F] in
def member (read : Reader (PyValue F)) (cs : List Char) :
    Option ((String × PyValue F) × List Char) :=
  if cs.head? = some '"' then
    match string cs.tail with
    | none => none
    | some (key, rest) =>
      if (skipBlanks rest).head? = some ':' then
        (read (skipBlanks (skipBlanks rest).tail)).map fun (x, rest) => ((key, x), rest)
      else none
  else none

def value : Nat → Reader (PyValue F)
  | 0, _ => none
  | _ + 1, [] => none
  | fuel + 1, c :: rest =>
    if c = '"' then (string rest).map fun (s, rest) => (.str s, rest)
    else if c = '[' then
      (bracketed (value fuel) ']' fuel rest).map fun (xs, rest) => (.list xs, rest)
    else if c = '\x7b' then
      (bracketed (member (value fuel)) '\x7d' fuel rest).map fun (kvs, rest) =>
        (.dict (OrderedDict.ofList kvs).entries, rest)
    else
      match wordOf (c :: rest) with
      | some word => word.2.map fun x => (x, (c :: rest).drop word.1.toList.length)
      | none => number (c :: rest)

/-- `json.loads(text)`; `none` is its `JSONDecodeError`. -/
def loads (text : String) : Option (PyValue F) :=
  if text.toList.head? = some '\ufeff' then none
  else
    match value (text.toList.length + 1) (skipBlanks text.toList) with
    | some (x, rest) => if skipBlanks rest = [] then some x else none
    | none => none

end

-- ---------------------------------------------------------------------------
-- What is written is read: strings
-- ---------------------------------------------------------------------------

theorem hexValue_hexDigit {n : Nat} (h : n < 16) : hexValue (PyValue.hexDigit n) = some n := by
  have hall : ∀ n : Fin 16, hexValue (PyValue.hexDigit n) = some n.val := by decide
  exact hall ⟨n, h⟩

/-- The escape of a control character. -/
theorem unicodeEscape_low {c : Char} (hlow : c.toNat < 0x20) (rest : List Char) :
    unicodeEscape ('0' :: '0' :: PyValue.hexDigit (c.toNat / 16) :: PyValue.hexDigit (c.toNat % 16) ::
      rest) = some (c, rest) := by
  have hunit : codeUnit ('0' :: '0' :: PyValue.hexDigit (c.toNat / 16) ::
      PyValue.hexDigit (c.toNat % 16) :: rest) = some (c.toNat, rest) := by
    have hzero : hexValue '0' = some 0 := by decide
    have hsum : ((0 * 16 + 0) * 16 + c.toNat / 16) * 16 + c.toNat % 16 = c.toNat := by omega
    simp only [codeUnit, hzero, hexValue_hexDigit (show c.toNat / 16 < 16 by omega),
      hexValue_hexDigit (show c.toNat % 16 < 16 by omega), Option.bind_eq_bind, Option.bind_some, hsum]
    rfl
  rw [unicodeEscape, hunit]
  dsimp only
  rw [if_neg (by omega), if_neg (by omega), Char.ofNat_toNat]

theorem stringChar_jsonChar (c : Char) (rest : List Char) :
    stringChar (PyValue.jsonChar c ++ rest) = some (c, rest) := by
  unfold PyValue.jsonChar
  split
  · rename_i h; subst h; rfl
  split
  · rename_i h; subst h; rfl
  split
  · rename_i h; subst h; rfl
  split
  · rename_i h; subst h; rfl
  split
  · rename_i h; subst h; rfl
  split
  · rename_i h; subst h; rfl
  split
  · rename_i h; subst h; rfl
  rename_i hback _ _ _ _ _
  split
  · rename_i hlow
    exact unicodeEscape_low hlow rest
  · rename_i hlow
    unfold stringChar
    dsimp only [List.singleton_append]
    rw [if_neg hback, if_neg hlow]

theorem head?_jsonChar (c : Char) (rest : List Char) :
    (PyValue.jsonChar c ++ rest).head? ≠ some '"' := by
  have hback : ∀ cs, ('\\' :: cs).head? ≠ some '"' := fun _ h =>
    absurd (Option.some.inj h) (by decide)
  unfold PyValue.jsonChar
  split_ifs with hquote
  all_goals first
    | exact hback _
    | exact fun h => hquote (Option.some.inj h)

theorem stringChars_flatMap (cs : List Char) {fuel : Nat} (hfuel : cs.length < fuel) (rest : List Char) :
    stringChars fuel (cs.flatMap PyValue.jsonChar ++ '"' :: rest) = some (cs, rest) := by
  induction cs generalizing fuel with
  | nil =>
    obtain ⟨fuel, rfl⟩ := Nat.exists_eq_succ_of_ne_zero (Nat.ne_of_gt hfuel)
    rfl
  | cons c cs ih =>
    obtain ⟨fuel, rfl⟩ := Nat.exists_eq_succ_of_ne_zero (Nat.ne_zero_of_lt hfuel)
    rw [stringChars, List.flatMap_cons, List.append_assoc, if_neg (head?_jsonChar c _),
      stringChar_jsonChar]
    dsimp only
    rw [ih (Nat.lt_of_succ_lt_succ hfuel)]
    rfl

theorem length_le_flatMap (cs : List Char) : cs.length ≤ (cs.flatMap PyValue.jsonChar).length := by
  induction cs with
  | nil => exact Nat.zero_le _
  | cons c cs ih =>
    have hne : PyValue.jsonChar c ≠ [] := by
      intro h
      have hchar := stringChar_jsonChar c []
      rw [h] at hchar
      cases hchar
    have hpos := List.length_pos_iff.mpr hne
    rw [List.flatMap_cons, List.length_append, List.length_cons]
    omega

theorem string_jsonString (s : String) (rest : List Char) :
    string ((PyValue.jsonString s).tail ++ rest) = some (s, rest) := by
  have hlength := length_le_flatMap s.toList
  rw [PyValue.jsonString, List.tail_cons, List.append_assoc, List.singleton_append, string,
    stringChars_flatMap, Option.map_some]
  · exact congrArg some (Prod.ext String.ofList_toList rfl)
  · rw [List.length_append]
    omega

-- ---------------------------------------------------------------------------
-- What is written is read: numbers
-- ---------------------------------------------------------------------------

/-- No digit stands at the front. -/
def EndsDigits (cs : List Char) : Prop := ∀ c, cs.head? = some c → c.isDigit = false

/-- Nothing at the front would go on with a number. -/
def EndsNumber (cs : List Char) : Prop :=
  ∀ c, cs.head? = some c → c.isDigit = false ∧ c ∉ ['.', 'e', 'E']

theorem EndsNumber.endsDigits {cs : List Char} (h : EndsNumber cs) : EndsDigits cs :=
  fun c hc => (h c hc).1

theorem endsDigits_cons {c : Char} {cs : List Char} (h : c.isDigit = false) : EndsDigits (c :: cs) :=
  fun _ hd => Option.some.inj hd ▸ h

theorem takeWhile_digits {ds rest : List Char} (hds : Json.Digits ds) (hrest : EndsDigits rest) :
    (ds ++ rest).takeWhile Char.isDigit = ds ∧ (ds ++ rest).dropWhile Char.isDigit = rest := by
  rw [List.takeWhile_append_of_pos hds, List.dropWhile_append_of_pos hds]
  cases rest with
  | nil => exact ⟨List.append_nil ds, rfl⟩
  | cons c rest =>
    have hc : ¬c.isDigit = true := by
      rw [hrest c rfl]
      exact fun h => Bool.false_ne_true h
    rw [List.takeWhile_cons_of_neg hc, List.dropWhile_cons_of_neg hc]
    exact ⟨List.append_nil ds, rfl⟩

theorem intPart_append {int rest : List Char} (h : Json.IntPart int) (hrest : EndsDigits rest) :
    intPart (int ++ rest) = some (int, rest) := by
  cases h with
  | zero => rfl
  | digits hc hne hcs =>
    obtain ⟨htake, hdrop⟩ := takeWhile_digits hcs hrest
    rw [List.cons_append, intPart, if_neg hne, if_pos hc, htake, hdrop]

theorem fraction_append {ds rest : List Char} (h : Json.Fraction ds) (hrest : EndsNumber rest ∨
    ∃ e tail, rest = e :: tail ∧ e ∈ ['e', 'E']) : fraction (ds ++ rest) = (ds, rest) := by
  have hdigits : EndsDigits rest := by
    rcases hrest with hrest | ⟨e, tail, rfl, he⟩
    · exact hrest.endsDigits
    · refine endsDigits_cons ?_
      simp only [List.mem_cons, List.not_mem_nil, or_false] at he
      rcases he with rfl | rfl <;> rfl
  cases h with
  | absent =>
    cases rest with
    | nil => rfl
    | cons c rest =>
      have hpoint : c ≠ '.' := by
        rintro rfl
        rcases hrest with hrest | ⟨e, tail, heq, he⟩
        · exact (hrest '.' rfl).2 (by decide)
        · obtain rfl := (List.cons.inj heq).1
          exact absurd he (by decide)
      rw [List.nil_append, fraction, if_neg fun hc => hpoint hc.1]
  | digits hne hcs =>
    obtain ⟨htake, hdrop⟩ := takeWhile_digits hcs hdigits
    rw [List.cons_append, fraction, htake, hdrop, if_pos ⟨rfl, hne⟩]

theorem sign_append {sgn ds rest : List Char} (hsign : sgn ∈ [[], ['+'], ['-']]) (hne : ds ≠ [])
    (hds : Json.Digits ds) : sign (sgn ++ (ds ++ rest)) = (sgn, ds ++ rest) := by
  simp only [List.mem_cons, List.not_mem_nil, or_false] at hsign
  rcases hsign with rfl | rfl | rfl
  · cases ds with
    | nil => exact absurd rfl hne
    | cons c ds =>
      have hc := hds c List.mem_cons_self
      have hplus : (c :: (ds ++ rest)).head? ≠ some '+' := fun h =>
        absurd (Option.some.inj h ▸ hc) (by decide)
      have hminus : (c :: (ds ++ rest)).head? ≠ some '-' := fun h =>
        absurd (Option.some.inj h ▸ hc) (by decide)
      rw [List.nil_append, List.cons_append, sign, if_neg hplus, minus, if_neg hminus]
  · rfl
  · rfl

theorem exponent_append {ds rest : List Char} (h : Json.Exponent ds) (hrest : EndsNumber rest) :
    exponent (ds ++ rest) = (ds, rest) := by
  cases h with
  | absent =>
    cases rest with
    | nil => rfl
    | cons c rest =>
      have hletter : ¬(c = 'e' ∨ c = 'E') := by
        rintro (rfl | rfl)
        · exact (hrest 'e' rfl).2 (by decide)
        · exact (hrest 'E' rfl).2 (by decide)
      rw [List.nil_append, exponent]
      dsimp only
      rw [if_neg fun hc => hletter hc.1]
  | @digits e sgn cs he hsign hne hcs =>
    obtain ⟨htake, hdrop⟩ := takeWhile_digits hcs hrest.endsDigits
    rw [List.cons_append, List.append_assoc, exponent, sign_append hsign hne hcs]
    dsimp only
    rw [htake, hdrop, if_pos ⟨by simpa using he, hne⟩]

theorem minus_append {mns int rest : List Char} (hminus : mns ∈ [[], ['-']]) (hint : Json.IntPart int) :
    minus (mns ++ (int ++ rest)) = (mns, int ++ rest) := by
  simp only [List.mem_cons, List.not_mem_nil, or_false] at hminus
  rcases hminus with rfl | rfl
  · cases hint with
    | zero => rfl
    | @digits c cs hc =>
      have hne : (c :: (cs ++ rest)).head? ≠ some '-' := fun h =>
        absurd (Option.some.inj h ▸ hc) (by decide)
      rw [List.nil_append, List.cons_append, minus, if_neg hne]
  · rfl

/-- The characters of an integer. -/
def isWhole (cs : List Char) : Bool := cs.all fun c => c = '-' || c.isDigit

theorem isWhole_intPart {int : List Char} (h : Json.IntPart int) : isWhole int = true := by
  rw [isWhole, List.all_eq_true]
  intro c hc
  cases h with
  | zero => exact List.mem_singleton.mp hc ▸ rfl
  | digits hd _ hds =>
    rcases List.mem_cons.mp hc with rfl | hc
    · rw [hd, Bool.or_true]
    · rw [hds c hc, Bool.or_true]

/-- A number is read up to its end, as an integer when it has no point and no exponent. -/
theorem number_append {F : Type} [PyRuntime F] {cs rest : List Char} (h : Json.Number cs)
    (hrest : EndsNumber rest) : number (F := F) (cs ++ rest) =
      if isWhole cs = true then (PyText.intOfText (String.ofList cs)).map fun n => (.int n, rest)
      else (PyRuntime.parse (String.ofList cs)).map fun x => (.float x, rest) := by
  obtain ⟨mns, hminus, hint, hfraction, hexponent⟩ := h
  rename_i int fraction' exponent'
  have htail : EndsNumber (exponent' ++ rest) ∨
      ∃ e tail, exponent' ++ rest = e :: tail ∧ e ∈ ['e', 'E'] := by
    cases hexponent with
    | absent => exact .inl hrest
    | digits he => exact .inr ⟨_, _, rfl, he⟩
  have hdigits : EndsDigits (fraction' ++ (exponent' ++ rest)) := by
    cases hfraction with
    | digits => exact endsDigits_cons rfl
    | absent =>
      rcases htail with htail | ⟨e, tail, heq, he⟩
      · exact htail.endsDigits
      · rw [List.nil_append, heq]
        refine endsDigits_cons ?_
        simp only [List.mem_cons, List.not_mem_nil, or_false] at he
        rcases he with rfl | rfl <;> rfl
  have hwhole : isWhole (mns ++ int ++ fraction' ++ exponent') = true ↔ fraction' ++ exponent' = [] := by
    have hfront : isWhole mns = true := by
      simp only [List.mem_cons, List.not_mem_nil, or_false] at hminus
      rcases hminus with rfl | rfl <;> rfl
    have hint := isWhole_intPart hint
    simp only [isWhole] at hfront hint ⊢
    rw [List.all_append, List.all_append, List.all_append, hfront, hint, Bool.true_and, Bool.true_and,
      List.append_eq_nil_iff, Bool.and_eq_true]
    cases hfraction with
    | digits => simp
    | absent =>
      cases hexponent with
      | absent => simp
      | digits he =>
        simp only [List.mem_cons, List.not_mem_nil, or_false] at he
        rcases he with rfl | rfl <;> simp
  have hparts : mns ++ int ++ fraction' ++ exponent' ++ rest =
      mns ++ (int ++ (fraction' ++ (exponent' ++ rest))) := by simp only [List.append_assoc]
  rw [hparts, number, minus_append hminus hint]
  dsimp only
  rw [intPart_append hint hdigits]
  dsimp only
  rw [fraction_append hfraction htail]
  dsimp only
  rw [exponent_append hexponent hrest]
  dsimp only
  by_cases hnil : fraction' ++ exponent' = []
  · rw [if_pos hnil, if_pos (hwhole.mpr hnil)]
  · rw [if_neg hnil, if_neg (mt hwhole.mp hnil)]

theorem number_front {cs : List Char} (h : Json.Number cs) :
    ∃ mns d tail, mns ∈ [[], ['-']] ∧ d.isDigit = true ∧ cs = mns ++ d :: tail := by
  obtain ⟨mns, hminus, hint, -, -⟩ := h
  cases hint with
  | zero => exact ⟨mns, '0', _, hminus, rfl, by simp; rfl⟩
  | digits hc => exact ⟨mns, _, _, hminus, hc, by simp; rfl⟩

theorem wordOf_number [PyRuntime F] {cs : List Char} (h : Json.Number cs) (rest : List Char) :
    wordOf (F := F) (cs ++ rest) = none := by
  obtain ⟨mns, d, tail, hminus, hd, rfl⟩ := number_front h
  have hne : ∀ c : Char, c.isDigit = false → ¬c = d := by
    rintro c hc rfl
    exact Bool.false_ne_true (hc.symm.trans hd)
  simp only [List.mem_cons, List.not_mem_nil, or_false] at hminus
  rcases hminus with rfl | rfl
  · simp [wordOf, constants, hne 'n' rfl, hne 't' rfl, hne 'f' rfl, hne 'N' rfl, hne 'I' rfl, hne '-' rfl]
  · simp [wordOf, constants, hne 'I' rfl]

end JsonReader
