import IndustrialGateway.Lib.Json
import IndustrialGateway.Lib.PyExcept
import IndustrialGateway.Lib.Table
import IndustrialGateway.Lib.WholeFloat

/-!
# JSON texts of Python values

`json.dumps` with `ensure_ascii=False`. Its text is a JSON text exactly when every
float of the value is finite.
-/

/-- A finite float is written as a JSON number. -/
class PyJson (F : Type) extends PyRuntime F where
  number_repr : ∀ x n, trunc x = some n → Json.Number (repr x).toList

namespace PyValue

open Json

-- ---------------------------------------------------------------------------
-- Strings
-- ---------------------------------------------------------------------------

def hexDigit (n : Nat) : Char := if n < 10 then Char.ofNat (48 + n) else Char.ofNat (87 + n)

def jsonChar (c : Char) : List Char :=
  if c = '"' then ['\\', '"']
  else if c = '\\' then ['\\', '\\']
  else if c = '\n' then ['\\', 'n']
  else if c = '\r' then ['\\', 'r']
  else if c = '\t' then ['\\', 't']
  else if c = '\x08' then ['\\', 'b']
  else if c = '\x0c' then ['\\', 'f']
  else if c.toNat < 0x20 then
    ['\\', 'u', '0', '0', hexDigit (c.toNat / 16), hexDigit (c.toNat % 16)]
  else [c]

def jsonString (s : String) : List Char := '"' :: (s.toList.flatMap jsonChar ++ ['"'])

theorem isHex_hexDigit {n : Nat} (h : n < 16) : isHex (hexDigit n) = true := by
  have hall : ∀ n : Fin 16, isHex (hexDigit n) = true := by decide
  exact hall ⟨n, h⟩

theorem chars_jsonChar (c : Char) : Chars (jsonChar c) := by
  have hescape : ∀ c, c ∈ ['"', '\\', '/', 'b', 'f', 'n', 'r', 't'] → Chars ['\\', c] :=
    fun c hc => .escape hc .nil
  unfold jsonChar
  split
  · exact hescape _ (by decide)
  split
  · exact hescape _ (by decide)
  split
  · exact hescape _ (by decide)
  split
  · exact hescape _ (by decide)
  split
  · exact hescape _ (by decide)
  split
  · exact hescape _ (by decide)
  split
  · exact hescape _ (by decide)
  rename_i hquote hback _ _ _ _ _
  split
  · rename_i hlow
    refine Chars.unicode ['0', '0', _, _] rfl ?_ .nil
    intro d hd
    simp only [List.mem_cons, List.not_mem_nil, or_false] at hd
    rcases hd with rfl | rfl | rfl | rfl
    · decide
    · decide
    · exact isHex_hexDigit (by omega)
    · exact isHex_hexDigit (by omega)
  · rename_i hlow
    exact .plain ⟨Nat.le_of_not_lt hlow, hquote, hback⟩ .nil

theorem chars_flatMap (cs : List Char) : Chars (cs.flatMap jsonChar) := by
  induction cs with
  | nil => exact .nil
  | cons c cs ih => exact (chars_jsonChar c).append ih

-- ---------------------------------------------------------------------------
-- Values
-- ---------------------------------------------------------------------------

variable {F : Type}

section

variable [PyRuntime F]

def jsonFloat (x : F) : List Char :=
  match PyRuntime.trunc x with
  | some _ => (PyRuntime.repr x).toList
  | .none =>
    if PyRuntime.isNaN x then "NaN".toList
    else if PyRuntime.lt x (PyRuntime.lit 0) then "-Infinity".toList
    else "Infinity".toList

mutual
/-- The text of a value; `pad` stands behind every comma and colon. -/
def json (pad : List Char) : PyValue F → List Char
  | .none => "null".toList
  | .bool true => "true".toList
  | .bool false => "false".toList
  | .int n => (PyText.textOfInt n).toList
  | .float x => jsonFloat x
  | .str s => jsonString s
  | .list xs => '[' :: (jsonList pad xs ++ [']'])
  | .dict kvs => '\x7b' :: (jsonDict pad kvs ++ ['\x7d'])
  | .object _ _ => []
def jsonList (pad : List Char) : List (PyValue F) → List Char
  | [] => []
  | [x] => json pad x
  | x :: xs => json pad x ++ ',' :: (pad ++ jsonList pad xs)
def jsonDict (pad : List Char) : List (String × PyValue F) → List Char
  | [] => []
  | [(k, x)] => jsonString k ++ ':' :: (pad ++ json pad x)
  | (k, x) :: kvs => jsonString k ++ ':' :: (pad ++ json pad x) ++ ',' :: (pad ++ jsonDict pad kvs)
end

/-- `json.dumps(value, ensure_ascii=False)` with the separators `(", ", ": ")` or,
without the pad, `(",", ":")`. -/
def dumps (pad : String) (value : PyValue F) : Except PyException String := do
  checkJson value
  return String.ofList (json pad.toList value)

mutual
/-- The value that `sort_keys=True` writes. -/
def sortKeys : PyValue F → PyValue F
  | .list xs => .list (sortKeysList xs)
  | .dict kvs => .dict (orderBy Prod.fst (sortKeysDict kvs))
  | v => v
def sortKeysList : List (PyValue F) → List (PyValue F)
  | [] => []
  | x :: xs => sortKeys x :: sortKeysList xs
def sortKeysDict : List (String × PyValue F) → List (String × PyValue F)
  | [] => []
  | (k, x) :: kvs => (k, sortKeys x) :: sortKeysDict kvs
end

mutual
/-- No float of the value is an infinity or a NaN. -/
def finite : PyValue F → Bool
  | .float x => (PyRuntime.trunc x).isSome
  | .list xs => finiteList xs
  | .dict kvs => finiteDict kvs
  | _ => true
def finiteList : List (PyValue F) → Bool
  | [] => true
  | x :: xs => finite x && finiteList xs
def finiteDict : List (String × PyValue F) → Bool
  | [] => true
  | (_, x) :: kvs => finite x && finiteDict kvs
end

end

-- ---------------------------------------------------------------------------
-- Sorted keys
-- ---------------------------------------------------------------------------

mutual
/-- The order of the keys does not matter for whether a value can be written. -/
theorem checkJson_sortKeys : (v : PyValue F) → (checkJson (sortKeys v) = .ok () ↔ checkJson v = .ok ())
  | .none => by simp only [sortKeys]
  | .bool _ => by simp only [sortKeys]
  | .int _ => by simp only [sortKeys]
  | .float _ => by simp only [sortKeys]
  | .str _ => by simp only [sortKeys]
  | .object _ _ => by simp only [sortKeys]
  | .list xs => by
    rw [sortKeys, checkJson, checkJson]
    exact checkJsonList_sortKeys xs
  | .dict kvs => by
    rw [sortKeys, checkJson, checkJson, checkJsonDict_eq_ok, ← checkJsonDict_sortKeys kvs,
      checkJsonDict_eq_ok]
    simp only [mem_orderBy]
theorem checkJsonList_sortKeys :
    (xs : List (PyValue F)) → (checkJsonList (sortKeysList xs) = .ok () ↔ checkJsonList xs = .ok ())
  | [] => by rw [sortKeysList]
  | x :: xs => by
    simp only [sortKeysList, checkJsonList, bind_eq_ok, checkJson_sortKeys x, checkJsonList_sortKeys xs]
theorem checkJsonDict_sortKeys :
    (kvs : List (String × PyValue F)) →
      (checkJsonDict (sortKeysDict kvs) = .ok () ↔ checkJsonDict kvs = .ok ())
  | [] => by rw [sortKeysDict]
  | (k, x) :: kvs => by
    simp only [sortKeysDict, checkJsonDict, bind_eq_ok, checkJson_sortKeys x, checkJsonDict_sortKeys kvs]
end

-- ---------------------------------------------------------------------------
-- Finite values
-- ---------------------------------------------------------------------------

theorem finiteDict_iff [PyRuntime F] {kvs : List (String × PyValue F)} :
    finiteDict kvs = true ↔ ∀ p ∈ kvs, finite p.2 = true := by
  induction kvs with
  | nil => simp [finiteDict]
  | cons p kvs ih =>
    obtain ⟨k, x⟩ := p
    rw [finiteDict, Bool.and_eq_true, ih, List.forall_mem_cons]

theorem intPart_toDigits (n : Nat) : IntPart (Nat.toDigits 10 n) := by
  have hdigits : ∀ m, Digits (Nat.toDigits 10 m) := fun m c hc =>
    Nat.isDigit_of_mem_toDigits (by decide) (by decide) hc
  -- a number of several digits starts like the number without its last digit
  have hhead : ∀ m, 0 < m → ∃ c cs, Nat.toDigits 10 m = c :: cs ∧ c ≠ '0' := by
    intro m
    induction m using Nat.strongRecOn with
    | ind m ih =>
      intro hm
      rw [Nat.toDigits_eq_if (by decide)]
      split
      · rename_i hlt
        have hall : ∀ k : Fin 10, 0 < k.val → Nat.digitChar k ≠ '0' := by decide
        exact ⟨_, [], rfl, hall ⟨m, hlt⟩ hm⟩
      · rename_i hge
        obtain ⟨c, cs, hcs, hne⟩ := ih (m / 10) (by omega) (by omega)
        exact ⟨c, cs ++ [Nat.digitChar (m % 10)], by rw [hcs]; rfl, hne⟩
  rcases Nat.eq_zero_or_pos n with rfl | hn
  · exact .zero
  · obtain ⟨c, cs, hcs, hne⟩ := hhead n hn
    have hall := hdigits n
    rw [hcs] at hall ⊢
    obtain ⟨hc, hrest⟩ := List.forall_mem_cons.mp hall
    exact .digits hc hne hrest

theorem number_textOfInt (n : Int) : Number (PyText.textOfInt n).toList := by
  rw [PyText.toList_textOfInt]
  split
  · simpa using Number.mk [] (by simp) (intPart_toDigits n.toNat) .absent .absent
  · simpa using Number.mk ['-'] (by simp) (intPart_toDigits (-n).toNat) .absent .absent

variable [PyJson F]

theorem spoilt_jsonFloat {x : F} (h : PyRuntime.trunc x = .none) : Spoilt (jsonFloat x) := by
  have hword : ∀ cs : List Char, '"' ∉ cs → (∃ c ∈ cs, isToken c = false) → Spoilt cs :=
    fun cs hplain hc => ⟨cs, reads_plain hplain, hc⟩
  rw [jsonFloat, h]
  dsimp only
  split
  · exact hword _ (by decide) ⟨'N', by decide, by decide⟩
  split
  · exact hword _ (by decide) ⟨'I', by decide, by decide⟩
  · exact hword _ (by decide) ⟨'I', by decide, by decide⟩

/-- The text is derived from the symbol, or spoilt where something in it is not finite. -/
def Written (symbol : Symbol) (ok : Bool) (cs : List Char) : Prop :=
  if ok = true then Derives symbol cs else Spoilt cs

theorem Written.balanced {symbol : Symbol} {ok : Bool} {cs : List Char} (h : Written symbol ok cs) :
    Balanced cs := by
  cases ok with
  | true => exact (Derives.sober h).balanced
  | false => exact Spoilt.balanced h

theorem Written.mono {symbol symbol' : Symbol} {ok : Bool} {cs : List Char}
    (hrule : Derives symbol cs → Derives symbol' cs) (h : Written symbol ok cs) :
    Written symbol' ok cs := by
  cases ok with
  | true => exact hrule h
  | false => exact h

theorem Written.within {symbol symbol' : Symbol} {ok : Bool} (front : List Char)
    {cs back : List Char} (hfront : Balanced front) (hback : Balanced back)
    (hrule : Derives symbol cs → Derives symbol' (front ++ (cs ++ back)))
    (h : Written symbol ok cs) : Written symbol' ok (front ++ (cs ++ back)) := by
  cases ok with
  | true => exact hrule h
  | false => exact hfront.append_spoilt (Spoilt.append h hback)

theorem Written.join {symbol symbol' symbol'' : Symbol} {ok ok' : Bool} (mid : List Char)
    {cs ds : List Char} (hmid : Balanced mid)
    (hrule : Derives symbol cs → Derives symbol' ds → Derives symbol'' (cs ++ (mid ++ ds)))
    (h : Written symbol ok cs) (h' : Written symbol' ok' ds) :
    Written symbol'' (ok && ok') (cs ++ (mid ++ ds)) := by
  cases ok with
  | false =>
    have hrest : Balanced (mid ++ ds) := by
      obtain ⟨seen, hreads⟩ := hmid
      obtain ⟨seen', hreads'⟩ := h'.balanced
      exact ⟨seen ++ seen', hreads.append hreads'⟩
    exact Spoilt.append h hrest
  | true =>
    cases ok' with
    | true => exact hrule h h'
    | false => exact h.balanced.append_spoilt (hmid.append_spoilt h')

theorem balanced_plain {cs : List Char} (h : '"' ∉ cs) : Balanced cs := ⟨cs, reads_plain h⟩

variable {pad : List Char}

theorem not_quote_pad (hpad : Ws pad) {c : Char} (hc : c ≠ '"') : '"' ∉ c :: pad := by
  intro h
  rcases List.mem_cons.mp h with h | h
  · exact hc h.symm
  · exact absurd (hpad _ h) (by decide)

theorem written_member (hpad : Ws pad) (name : String) {ok : Bool} {cs : List Char}
    (h : Written .value ok cs) :
    Written .member ok (jsonString name ++ ':' :: (pad ++ cs)) := by
  have hname : Chars (name.toList.flatMap jsonChar) := chars_flatMap name.toList
  have hfront : Balanced (jsonString name ++ ':' :: pad) := by
    refine ⟨['"'] ++ ':' :: pad, Reads.append (reads_string hname) (reads_plain ?_)⟩
    exact not_quote_pad hpad (by decide)
  have hparts : jsonString name ++ ':' :: (pad ++ cs) = jsonString name ++ ':' :: pad ++ (cs ++ []) := by
    simp
  rw [hparts]
  refine Written.within _ hfront (balanced_plain (by decide)) ?_ h
  intro hvalue
  have helement := Derives.padded hpad hvalue.bare nofun
  simpa [jsonString] using Derives.member ws_nil hname ws_nil helement

mutual
/-- What the text of a value is derived from. -/
theorem written_json (hpad : Ws pad) :
    (v : PyValue F) → checkJson v = .ok () → Written .value (finite v) (json pad v)
  | .none, _ => by rw [json]; exact Derives.null
  | .bool true, _ => by rw [json]; exact Derives.true
  | .bool false, _ => by rw [json]; exact Derives.false
  | .int n, _ => by rw [json]; exact Derives.number (number_textOfInt n)
  | .str s, _ => by rw [json]; exact Derives.string (chars_flatMap s.toList)
  | .float x, _ => by
    rw [json, finite]
    cases hx : PyRuntime.trunc x with
    | none => exact spoilt_jsonFloat hx
    | some n =>
      rw [jsonFloat, hx]
      exact Derives.number (PyJson.number_repr x n hx)
  | .list [], _ => by rw [json, jsonList]; exact Derives.emptyArray ws_nil
  | .list (x :: xs), h => by
    rw [checkJson] at h
    rw [json, finite]
    exact Written.within ['['] (balanced_plain (by decide)) (balanced_plain (by decide))
      Derives.array (written_jsonList hpad (x :: xs) nofun h)
  | .dict [], _ => by rw [json, jsonDict]; exact Derives.emptyObject ws_nil
  | .dict (entry :: kvs), h => by
    rw [checkJson] at h
    rw [json, finite]
    exact Written.within ['\x7b'] (balanced_plain (by decide)) (balanced_plain (by decide))
      Derives.object (written_jsonDict hpad (entry :: kvs) nofun h)
  | .object name text, h => by rw [checkJson] at h; cases h
theorem written_jsonList (hpad : Ws pad) :
    (xs : List (PyValue F)) → xs ≠ [] → checkJsonList xs = .ok () →
      Written .elements (finiteList xs) (jsonList pad xs)
  | [], hne, _ => absurd rfl hne
  | [x], _, h => by
    simp only [checkJsonList, bind_eq_ok] at h
    obtain ⟨_, hx, -⟩ := h
    simpa only [jsonList, finiteList, Bool.and_true] using
      Written.mono (fun h => h.bare.lastElement) (written_json hpad x hx)
  | x :: y :: ys, _, h => by
    rw [checkJsonList, bind_eq_ok] at h
    obtain ⟨_, hx, hrest⟩ := h
    rw [jsonList, finiteList]
    · exact Written.join (',' :: pad) (balanced_plain (not_quote_pad hpad (by decide)))
        (fun h h' => .elements h.bare (h'.padded hpad nofun)) (written_json hpad x hx)
        (written_jsonList hpad (y :: ys) nofun hrest)
    · exact nofun
theorem written_jsonDict (hpad : Ws pad) :
    (kvs : List (String × PyValue F)) → kvs ≠ [] → checkJsonDict kvs = .ok () →
      Written .members (finiteDict kvs) (jsonDict pad kvs)
  | [], hne, _ => absurd rfl hne
  | [(k, x)], _, h => by
    simp only [checkJsonDict, bind_eq_ok] at h
    obtain ⟨_, hx, -⟩ := h
    simpa only [jsonDict, finiteDict, Bool.and_true] using
      Written.mono Derives.lastMember (written_member hpad k (written_json hpad x hx))
  | (k, x) :: entry :: kvs, _, h => by
    rw [checkJsonDict, bind_eq_ok] at h
    obtain ⟨_, hx, hrest⟩ := h
    rw [jsonDict, finiteDict]
    · exact Written.join (',' :: pad) (balanced_plain (not_quote_pad hpad (by decide)))
        (fun h h' => .members h (h'.padded hpad nofun))
        (written_member hpad k (written_json hpad x hx))
        (written_jsonDict hpad (entry :: kvs) nofun hrest)
    · exact nofun
end

/-- The text of a value is a JSON text exactly when all of its floats are finite. -/
theorem isText_dumps {pad text : String} {value : PyValue F} (hpad : Ws pad.toList)
    (h : dumps pad value = .ok text) : IsText text.toList ↔ finite value = true := by
  rw [dumps, bind_eq_ok] at h
  obtain ⟨_, hcheck, htext⟩ := h
  obtain rfl : String.ofList (json pad.toList value) = text := Except.ok.inj htext
  rw [String.toList_ofList]
  have hwritten := written_json hpad value hcheck
  cases hfinite : finite value with
  | true =>
    rw [hfinite] at hwritten
    exact ⟨fun _ => rfl, fun _ => Derives.bare hwritten⟩
  | false =>
    rw [hfinite] at hwritten
    exact ⟨fun htext => absurd htext (Spoilt.not_isText hwritten), nofun⟩

end PyValue
